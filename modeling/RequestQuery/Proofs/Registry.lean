import Mathlib.Data.List.Nodup
import Mathlib.Control.Monad.Basic
import RequestQuery.Settings.Document
import RequestQuery.Proofs.SortedMap
import RequestQuery.Proofs.Traversal

namespace RequestQuery

namespace Registry

variable {r r' : Registry} {e : Entity} {fault : Fault} {name : String}

-- What holds of every registry.
structure Sound (r : Registry) : Prop where
  distinct : r.names.Nodup
  names    : ∀ e ∈ r.entities, Text.isBlankText e.name = false
  fields   : ∀ e ∈ r.entities, ∀ field, e.hasField field → Text.isBlankText field = false

-- Why an entity is refused. A fault is told only if there is none of those before it.
inductive Refuses (r : Registry) (e : Entity) : Fault → Prop
  | blankName (h : Text.isBlankText e.name) : Refuses r e .blankName
  | repeatedName (hb : Text.isBlankText e.name = false) (h : e.name ∈ r.names) :
    Refuses r e (.repeatedName e.name)
  | blankField (hb : Text.isBlankText e.name = false) (hn : e.name ∉ r.names)
    (h : ∃ field, e.hasField field ∧ Text.isBlankText field) : Refuses r e (.blankField e.name)

theorem isSome_get?_iff : (r.get? name).isSome ↔ name ∈ r.names := by
  simp [get?, names, List.find?_isSome]

theorem any_isBlankText_iff :
    e.fields.names.any Text.isBlankText ↔ ∃ field, e.hasField field ∧ Text.isBlankText field := by
  simp [FieldSet.names, SortedMap.keys, Entity.hasField, SortedMap.contains]

theorem run_register (r : Registry) (e : Entity) :
    (register e).run.run r =
      if Text.isBlankText e.name then (.error .blankName, r)
      else if (r.get? e.name).isSome then (.error (.repeatedName e.name), r)
      else if e.fields.names.any Text.isBlankText then (.error (.blankField e.name), r)
      else (.ok (), ⟨r.entities ++ [e]⟩) := by
  have hg : (get : ExceptT Fault (StateM Registry) Registry).run.run r = pure (.ok r, r) := rfl
  rw [register]
  simp only [ExceptT.run_bind, StateT.run_bind, hg, pure_bind]
  split
  · rfl
  · split
    · rfl
    · split <;> rfl

-- An entity that is refused leaves the registry as it was.
theorem register_eq_error_iff :
    (register e).run.run r = (.error fault, r') ↔ r.Refuses e fault ∧ r' = r where
  mp h := by
    rw [run_register] at h
    split at h
    case isTrue hb => cases h; exact ⟨.blankName hb, rfl⟩
    case isFalse hb =>
      have hb := Bool.eq_false_iff.mpr hb
      split at h
      case isTrue hn => cases h; exact ⟨.repeatedName hb (isSome_get?_iff.mp hn), rfl⟩
      case isFalse hn =>
        split at h
        case isTrue hf =>
          cases h
          exact ⟨.blankField hb (isSome_get?_iff.not.mp hn) (any_isBlankText_iff.mp hf), rfl⟩
        case isFalse => cases h
  mpr h := by
    obtain ⟨h, rfl⟩ := h
    rw [run_register]
    cases h
    case blankName hb => rw [if_pos hb]
    case repeatedName hb hn => rw [if_neg (by simp [hb]), if_pos (isSome_get?_iff.mpr hn)]
    case blankField hb hn hf =>
      rw [if_neg (by simp [hb]), if_neg (isSome_get?_iff.not.mpr hn),
        if_pos (any_isBlankText_iff.mpr hf)]

theorem register_cases (r : Registry) (e : Entity) :
    (∃ fault, (register e).run.run r = (.error fault, r)) ∨
      (register e).run.run r = (.ok (), ⟨r.entities ++ [e]⟩) := by
  rw [run_register]
  split_ifs
  case pos => exact .inl ⟨_, rfl⟩
  case pos => exact .inl ⟨_, rfl⟩
  case pos => exact .inl ⟨_, rfl⟩
  case neg => exact .inr rfl

theorem register_eq_ok_iff :
    (register e).run.run r = (.ok (), r') ↔
      (∀ fault, ¬r.Refuses e fault) ∧ r' = ⟨r.entities ++ [e]⟩ where
  mp h := by
    rcases register_cases r e with ⟨fault, hf⟩ | ho
    case inl => cases hf.symm.trans h
    case inr =>
      refine ⟨fun fault hr => ?_, congrArg Prod.snd (h.symm.trans ho)⟩
      cases (register_eq_error_iff.mpr ⟨hr, rfl⟩).symm.trans h
  mpr h := by
    obtain ⟨hn, rfl⟩ := h
    rcases register_cases r e with ⟨fault, hf⟩ | ho
    case inl => exact absurd (register_eq_error_iff.mp hf).1 (hn fault)
    case inr => exact ho

-- No two entities have the same name, so that the one found under a name is the only one of that name.
theorem Sound.get?_eq_some_iff (h : r.Sound) :
    r.get? name = some e ↔ e ∈ r.entities ∧ e.name = name where
  mp hg := ⟨List.mem_of_find?_eq_some hg, by simpa using List.find?_some hg⟩
  mpr hg := by
    obtain ⟨hm, rfl⟩ := hg
    have ⟨e', he'⟩ := Option.isSome_iff_exists.mp (isSome_get?_iff.mpr (List.mem_map_of_mem hm))
    have hn : e'.name = e.name := by simpa using List.find?_some he'
    rw [he', List.inj_on_of_nodup_map h.distinct (List.mem_of_find?_eq_some he') hm hn]

theorem Sound.register (h : r.Sound) (hr : (register e).run.run r = (.ok (), r')) : r'.Sound := by
  obtain ⟨hn, rfl⟩ := register_eq_ok_iff.mp hr
  have hb : Text.isBlankText e.name = false := by
    by_contra hb
    exact hn _ (.blankName (by simpa using hb))
  have hd : e.name ∉ r.names := fun hm => hn _ (.repeatedName hb hm)
  have hf (field) (hm : e.hasField field) : Text.isBlankText field = false := by
    by_contra hf
    exact hn _ (.blankField hb hd ⟨field, hm, by simpa using hf⟩)
  constructor
  case distinct =>
    rw [Registry.names, List.map_append, List.map_singleton, ← List.concat_eq_append]
    exact h.distinct.concat hd
  case names =>
    intro e' he
    rcases List.mem_append.mp he with he | he
    · exact h.names e' he
    · exact List.mem_singleton.mp he ▸ hb
  case fields =>
    intro e' he
    rcases List.mem_append.mp he with he | he
    · exact h.fields e' he
    · exact List.mem_singleton.mp he ▸ hf

end Registry

end RequestQuery
