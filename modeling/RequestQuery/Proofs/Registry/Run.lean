import RequestQuery.Proofs.Registry

namespace RequestQuery.Registry

inductive Operation
  | register (e : Entity)
  -- by the registry of a document
  | replace (text : String)

def attempt : Operation → ExceptT Failure (StateM Registry) Unit
  | .register e   => (register e).adapt Fault.failure
  | .replace text => do set (← ofToml text)

-- The registry behind an operation, whether that failed or not.
def after (r : Registry) (op : Operation) : Registry :=
  ((attempt op).run.run r).2

def run (r : Registry) (ops : List Operation) : Registry :=
  ops.foldl after r

-- What an operation may fail with.
def Fails (r : Registry) : Operation → Failure → Prop
  | .register e, failure   => ∃ fault, r.Refuses e fault ∧ failure = .schema fault.message
  | .replace text, failure => ofToml text = .error failure

-- Where an operation leads that does not fail.
def Leads (r : Registry) : Operation → Registry → Prop
  | .register e, r'   => (∀ fault, ¬r.Refuses e fault) ∧ r' = ⟨r.entities ++ [e]⟩
  | .replace text, r' => ofToml text = .ok r'

-- The entities registered after an operation, where `es` are those before. Only a successful operation
-- counts; a replacement does away with all that was before, and registers those of its document.
def record (r : Registry) (es : List Entity) : Operation → List Entity
  | .register e =>
    match ((register e).run.run r).1 with
    | .ok _    => es ++ [e]
    | .error _ => es
  | .replace text =>
    match ofToml text with
    | .ok _    => (listed text).toOption.getD []
    | .error _ => es

def registered (r : Registry) (es : List Entity) : List Operation → List Entity
  | []        => es
  | op :: ops => registered (r.after op) (r.record es op) ops

variable {r r' : Registry} {e : Entity} {es : List Entity} {text : String} {failure : Failure}
  {op : Operation}

theorem run_attempt_register (e : Entity) (r : Registry) :
    (attempt (.register e)).run.run r =
      (((register e).run.run r).1.mapError Fault.failure, ((register e).run.run r).2) :=
  rfl

theorem run_attempt_replace (text : String) (r : Registry) :
    (attempt (.replace text)).run.run r =
      match ofToml text with
      | .ok r'         => (.ok (), r')
      | .error failure => (.error failure, r) := by
  rw [attempt]
  cases ofToml text <;> rfl

-- An operation that fails changes nothing.
theorem attempt_eq_error_iff :
    (attempt op).run.run r = (.error failure, r') ↔ r.Fails op failure ∧ r' = r := by
  cases op
  case register e =>
    rw [run_attempt_register, Fails]
    constructor
    · intro h
      obtain ⟨fault, hf, rfl⟩ := mapError_eq_error_iff.mp (congrArg Prod.fst h)
      have ⟨hr, hs⟩ := register_eq_error_iff.mp (Prod.ext hf rfl)
      exact ⟨⟨fault, hr, rfl⟩, (congrArg Prod.snd h).symm.trans hs⟩
    · rintro ⟨⟨fault, hr, rfl⟩, rfl⟩
      rw [register_eq_error_iff.mpr ⟨hr, rfl⟩]
      rfl
  case replace text =>
    rw [run_attempt_replace, Fails]
    cases ofToml text
    case ok => exact ⟨nofun, nofun⟩
    case error =>
      constructor
      · rintro ⟨⟩
        exact ⟨rfl, rfl⟩
      · rintro ⟨⟨⟩, rfl⟩
        rfl

theorem attempt_eq_ok_iff : (attempt op).run.run r = (.ok (), r') ↔ r.Leads op r' := by
  cases op
  case register e =>
    rw [run_attempt_register, Leads, ← register_eq_ok_iff]
    constructor
    · intro h
      have hf := mapError_eq_ok_iff.mp (congrArg Prod.fst h)
      have hs : ((register e).run.run r).2 = r' := congrArg Prod.snd h
      exact Prod.ext hf hs
    · intro h
      rw [h]
      rfl
  case replace text =>
    rw [run_attempt_replace, Leads]
    cases ofToml text
    case error => exact ⟨nofun, nofun⟩
    case ok =>
      constructor
      · rintro ⟨⟩
        rfl
      · rintro ⟨⟩
        rfl

-- All that can become of a registry.
theorem after_cases (r : Registry) (op : Operation) :
    (∃ failure, r.Fails op failure ∧ r.after op = r) ∨ r.Leads op (r.after op) := by
  rw [after]
  rcases ha : (attempt op).run.run r with ⟨failure | ⟨⟨⟩⟩, r'⟩
  case error => exact .inl ⟨failure, attempt_eq_error_iff.mp ha⟩
  case ok    => exact .inr (attempt_eq_ok_iff.mp ha)

theorem sound_empty : Sound {} where
  distinct := .nil
  names    := by simp
  fields   := by simp

theorem Sound.forM (h : r.Sound) (hr : (forM es Registry.register).run.run r = (.ok (), r')) : r'.Sound := by
  induction es generalizing r with
  | nil => cases hr; exact h
  | cons e es ih =>
    have ⟨r₁, h₁, hr⟩ := run_forM_cons_eq_ok_iff.mp hr
    exact ih (h.register h₁) hr

-- What has been registered one by one stands behind what was there, in the same order.
theorem entities_forM (h : (forM es register).run.run r = (.ok (), r')) :
    r'.entities = r.entities ++ es ∧ r' = run r (es.map .register) := by
  induction es generalizing r with
  | nil => cases h; exact ⟨(List.append_nil _).symm, rfl⟩
  | cons e es ih =>
    have ⟨r₁, h₁, h⟩ := run_forM_cons_eq_ok_iff.mp h
    have ⟨he, hr⟩ := ih h
    have ha : r.after (.register e) = r₁ := congrArg Prod.snd h₁
    constructor
    · rw [he, (register_eq_ok_iff.mp h₁).2, List.append_assoc, List.singleton_append]
    · rw [List.map_cons, run, List.foldl_cons, ha]
      exact hr

theorem ofEntities_eq_ok_iff : ofEntities es = .ok r ↔ (forM es register).run.run {} = (.ok (), r) := by
  rw [ofEntities]
  rcases (forM es register).run.run {} with ⟨_ | ⟨⟨⟩⟩, r'⟩
  case error => exact ⟨nofun, nofun⟩
  case ok =>
    constructor
    · rintro ⟨⟩
      rfl
    · rintro ⟨⟩
      rfl

theorem ofEntities_eq_error_iff {fault : Fault} :
    ofEntities es = .error fault ↔ ∃ r, (forM es register).run.run {} = (.error fault, r) := by
  rw [ofEntities]
  rcases (forM es register).run.run {} with ⟨_ | ⟨⟨⟩⟩, r⟩
  case ok => exact ⟨nofun, nofun⟩
  case error =>
    constructor
    · rintro ⟨⟩
      exact ⟨r, rfl⟩
    · rintro ⟨_, ⟨⟩⟩
      rfl

theorem ofToml_eq_ok_iff :
    ofToml text = .ok r ↔ ∃ es, listed text = .ok es ∧ (forM es register).run.run {} = (.ok (), r) := by
  simp only [ofToml, bind_eq_ok_iff, mapError_eq_ok_iff, ofEntities_eq_ok_iff]

theorem Sound.of_leads (h : r.Sound) (hl : r.Leads op r') : r'.Sound := by
  cases op
  case register e => exact h.register (register_eq_ok_iff.mpr hl)
  case replace text =>
    have ⟨es, _, hf⟩ := ofToml_eq_ok_iff.mp hl
    exact sound_empty.forM hf

theorem Sound.after (h : r.Sound) (op : Operation) : (r.after op).Sound := by
  rcases r.after_cases op with ⟨_, _, ha⟩ | hl
  · rwa [ha]
  · exact h.of_leads hl

theorem Sound.run (h : r.Sound) (ops : List Operation) : (r.run ops).Sound := by
  induction ops generalizing r with
  | nil => exact h
  | cons op ops ih => exact ih (h.after op)

theorem entities_after (r : Registry) (op : Operation) :
    (r.after op).entities = r.record r.entities op := by
  cases op
  case register e =>
    rw [after, run_attempt_register, record]
    rcases hr : (register e).run.run r with ⟨fault | ⟨⟨⟩⟩, r'⟩
    case error => exact congrArg entities (register_eq_error_iff.mp hr).2
    case ok    => exact congrArg entities (register_eq_ok_iff.mp hr).2
  case replace text =>
    rw [after, run_attempt_replace, record]
    cases ha : ofToml text
    case error => rfl
    case ok r' =>
      have ⟨es, hl, hf⟩ := ofToml_eq_ok_iff.mp ha
      rw [hl]
      exact (entities_forM hf).1

-- The entities stand in the order of their registration.
theorem entities_run (r : Registry) (ops : List Operation) :
    (r.run ops).entities = registered r r.entities ops := by
  induction ops generalizing r with
  | nil => rfl
  | cons op ops ih =>
    rw [registered, ← entities_after]
    exact ih (r.after op)

-- A document is registered entity by entity into an empty registry, and the first entity that is refused
-- there refuses it.
theorem ofToml_eq_run (text : String) :
    match ofToml text with
    | .ok r => ∃ es, listed text = .ok es ∧ r.entities = es ∧ r = run {} (es.map .register)
    | .error failure =>
      listed text = .error failure ∨
        ∃ before e after fault, listed text = .ok (before ++ e :: after) ∧
          (run {} (before.map .register)).entities = before ∧
          (run {} (before.map .register)).Refuses e fault ∧ failure = .schema fault.message := by
  split
  case h_1 r h =>
    have ⟨es, hl, hf⟩ := ofToml_eq_ok_iff.mp h
    have ⟨he, hr⟩ := entities_forM hf
    exact ⟨es, hl, he, hr⟩
  case h_2 failure h =>
    rcases bind_eq_error_iff.mp h with h | ⟨es, hl, h⟩
    · exact .inl h
    · obtain ⟨fault, hf, rfl⟩ := mapError_eq_error_iff.mp h
      obtain ⟨r', hf⟩ := ofEntities_eq_error_iff.mp hf
      obtain ⟨before, e, after, r, rfl, hb, hr⟩ := exists_of_run_forM_eq_error hf
      have ⟨he, hb⟩ := entities_forM hb
      exact .inr ⟨before, e, after, fault, hl, hb ▸ he, hb ▸ (register_eq_error_iff.mp hr).1, rfl⟩

theorem run_sound (ops : List Operation) :
    let r := run {} ops
    r.Sound ∧ r.entities = registered {} [] ops ∧
      (∀ name e, r.get? name = some e ↔ e ∈ r.entities ∧ e.name = name) ∧
      (∀ op failure r', (attempt op).run.run r = (.error failure, r') ↔ r.Fails op failure ∧ r' = r) ∧
      (∀ op r', (attempt op).run.run r = (.ok (), r') ↔ r.Leads op r') ∧
      ∀ text, match ofToml text with
        | .ok r => ∃ es, listed text = .ok es ∧ r.entities = es ∧ r = run {} (es.map .register)
        | .error failure =>
          listed text = .error failure ∨
            ∃ before e after fault, listed text = .ok (before ++ e :: after) ∧
              (run {} (before.map .register)).entities = before ∧
              (run {} (before.map .register)).Refuses e fault ∧ failure = .schema fault.message := by
  intro r
  have hs : r.Sound := sound_empty.run ops
  exact ⟨hs, entities_run {} ops, fun _ _ => hs.get?_eq_some_iff, fun _ _ _ => attempt_eq_error_iff,
    fun _ _ => attempt_eq_ok_iff, ofToml_eq_run⟩

end RequestQuery.Registry
