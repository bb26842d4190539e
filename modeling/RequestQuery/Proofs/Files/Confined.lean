import RequestQuery.Proofs.Files.Modification

namespace RequestQuery

namespace FileTree

variable {α β ε : Type} {here location : Location} {files ways : Location → Prop}
variable {result : α → Prop} {result' : β → Prop}
variable {path directory name : String} {bytes : List UInt8}

-- A computation that modifies no more than some files and the directories on some ways, whatever the tree it
-- starts from, if it starts from a working directory.
def Confined (here : Location) (files ways : Location → Prop) (x : StateM FileTree α) (result : α → Prop) :
    Prop :=
  ∀ tree, tree.workingDirectory = here →
    ModifiesOnly files ways tree (x.run tree).2 ∧ result (x.run tree).1

namespace Confined

variable {x : StateM FileTree α} {f : α → StateM FileTree β}

theorem pure {a : α} (h : result a) : Confined here files ways (Pure.pure a) result :=
  fun tree _ => ⟨.refl _ _ tree, h⟩

theorem bind (h : Confined here files ways x result)
    (hf : ∀ a, result a → Confined here files ways (f a) result') :
    Confined here files ways (x >>= f) result' := by
  intro tree hw
  have ⟨hm, ha⟩ := h tree hw
  have ⟨hm', hb⟩ := hf _ ha (x.run tree).2 (hm.here.trans hw)
  exact ⟨hm.trans hm', hb⟩

theorem mono {result' : α → Prop} (h : Confined here files ways x result)
    (hr : ∀ a, result a → result' a) : Confined here files ways x result' :=
  fun tree hw => (h tree hw).imp_right (hr _)

theorem weaken {files' : Location → Prop} (h : Confined here files ways x result)
    (hf : ∀ l, files l → files' l) : Confined here files' ways x result :=
  fun tree hw => (h tree hw).imp_left (·.weaken hf)

theorem discard (h : Confined here files ways x result) :
    Confined here files ways (Functor.discard x) fun _ => True :=
  fun tree hw => ⟨(h tree hw).1, trivial⟩

-- A loop that keeps an invariant.
theorem foldlM {xs : List β} {f : α → β → StateM FileTree α} {a : α}
    (h : ∀ a, ∀ x ∈ xs, result a → Confined here files ways (f a x) result) (ha : result a) :
    Confined here files ways (xs.foldlM f a) result := by
  induction xs generalizing a with
  | nil => exact .pure ha
  | cons x xs ih =>
    rw [List.foldlM_cons]
    exact (h a x List.mem_cons_self ha).bind fun b hb =>
      ih (fun a y hy => h a y (List.mem_cons_of_mem _ hy)) hb

theorem forIn {xs : List β} {f : β → StateM FileTree Unit}
    (h : ∀ x ∈ xs, Confined here files ways (f x) fun _ => True) :
    Confined here files ways (do for x in xs do f x) fun _ => True := by
  simp only [bind_pure_comp, List.forIn_yield_eq_foldlM, Functor.map_unit]
  exact foldlM (fun _ x hx _ => h x hx) trivial

end Confined

theorem confined_read : Confined here files ways (FileAccess.read path) fun _ => True :=
  fun tree _ => ⟨.refl _ _ tree, trivial⟩

theorem confined_names : Confined here files ways (FileAccess.names directory name) fun _ => True :=
  fun tree _ => ⟨.refl _ _ tree, trivial⟩

theorem confined_write (h : files (destination here path)) :
    Confined here files ways (FileAccess.write path bytes) fun _ => True := by
  rintro tree rfl
  refine ⟨?_, trivial⟩
  simp only [FileAccess.write, StateT.run_bind, StateT.run_get, pure_bind]
  cases hw : tree.write path bytes
  case error => exact .refl ..
  case ok tree' =>
    obtain ⟨location, hl, rfl⟩ := write_eq_ok_iff.mp hw
    exact .putFile hl.node (destination_of_resolve hl.resolve ▸ h)

theorem confined_remove (h : files (destination here directory ++ [name])) :
    Confined here files ways (FileAccess.remove directory name) fun _ => True := by
  rintro tree rfl
  refine ⟨?_, trivial⟩
  change ModifiesOnly _ _ tree (tree.remove directory name)
  rw [remove]
  split
  case h_2 => exact .refl ..
  case h_1 location hr =>
    split
    case h_2 => exact .refl ..
    case h_1 hn =>
      rw [destination_of_resolve hr] at h
      exact .erase hn h

-- A computation that may fail as well.
theorem Confined.run_bind {x : ExceptT ε (StateM FileTree) α} {f : α → ExceptT ε (StateM FileTree) β}
    (h : Confined here files ways x.run fun r => ∀ a, r = .ok a → result a)
    (hf : ∀ a, result a → Confined here files ways (f a).run fun r => ∀ b, r = .ok b → result' b) :
    Confined here files ways (x >>= f).run fun r => ∀ b, r = .ok b → result' b := by
  rw [ExceptT.run_bind]
  refine h.bind fun r hr => ?_
  cases r
  case error => exact .pure nofun
  case ok a  => exact hf a (hr a rfl)

end FileTree

end RequestQuery
