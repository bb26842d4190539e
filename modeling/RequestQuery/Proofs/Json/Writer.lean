import RequestQuery.Json.Reader
import RequestQuery.Json.Writer
import RequestQuery.Proofs.Json.Token
import RequestQuery.Proofs.Traversal

namespace RequestQuery.Json

-- The values of which JSON loses nothing: in them every decimal stands in a literal that JSON admits and
-- that denotes no integer.
inductive Writable : Data → Prop
  | null : Writable .null
  | boolean (b : Bool) : Writable (.boolean b)
  | integer (n : Int) : Writable (.integer n)
  | decimal {l : Decimal.Literal} (complete : l.Complete) (strict : Token.isStrict l)
      (kept : Data.ofLiteral l = .decimal l) : Writable (.decimal l)
  | text (s : String) : Writable (.text s)
  | list {items : List Data} (each : ∀ d ∈ items, Writable d) : Writable (.list items)
  | record {members : List (String × Data)} (each : ∀ m ∈ members, Writable m.2) :
      Writable (.record members)

variable {d : Data} {items : List Data} {name : String} {members : List (String × Data)}

theorem itemTokens_cons (h : items ≠ []) :
    itemTokens (d :: items) = tokens d ++ .comma :: itemTokens items := by
  cases items
  case nil  => exact absurd rfl h
  case cons => rfl

theorem memberTokens_cons (h : members ≠ []) :
    memberTokens ((name, d) :: members) =
      .text (some name) :: .colon :: (tokens d ++ .comma :: memberTokens members) := by
  cases members
  case nil  => exact absurd rfl h
  case cons => rfl

-- Tokens that are read back from their characters.
structure Scannable (tokens : List Token) : Prop where
  legible : ∀ t ∈ tokens, t.Legible
  apart   : tokens.IsChain Token.Apart

namespace Scannable

variable {t : Token} {ts ts₁ ts₂ : List Token}

theorem singleton (h : t.Legible) : Scannable [t] :=
  ⟨by simpa using h, .singleton t⟩

-- What is no atom may stand beside anything.
theorem cons (ha : ¬t.isAtom) (ht : t.Legible) (h : Scannable ts) : Scannable (t :: ts) where
  legible := List.forall_mem_cons.mpr ⟨ht, h.legible⟩
  apart   := h.apart.cons fun _ _ hx => absurd hx ha

theorem append_cons (h₁ : Scannable ts₁) (ha : ¬t.isAtom) (ht : t.Legible) (h₂ : Scannable ts₂) :
    Scannable (ts₁ ++ t :: ts₂) where
  legible := List.forall_mem_append.mpr ⟨h₁.legible, (h₂.cons ha ht).legible⟩
  apart   := h₁.apart.append (h₂.cons ha ht).apart fun _ _ _ hy _ => Option.mem_some.mp hy ▸ ha

end Scannable

theorem scannable_itemTokens (h : ∀ d ∈ items, Scannable (tokens d)) : Scannable (itemTokens items) := by
  induction items with
  | nil => exact .singleton trivial
  | cons d items ih =>
    have ⟨hd, hi⟩ := List.forall_mem_cons.mp h
    cases items
    case nil => exact hd.append_cons nofun trivial ⟨nofun, .nil⟩
    case cons => exact itemTokens_cons (List.cons_ne_nil _ _) ▸ hd.append_cons nofun trivial (ih hi)

theorem scannable_memberTokens (h : ∀ m ∈ members, Scannable (tokens m.2)) :
    Scannable (memberTokens members) := by
  induction members with
  | nil => exact .singleton trivial
  | cons m members ih =>
    have ⟨hd, hm⟩ := List.forall_mem_cons.mp h
    cases members
    case nil =>
      refine .cons nofun rfl (.cons nofun trivial ?_)
      exact hd.append_cons nofun trivial ⟨nofun, .nil⟩
    case cons =>
      refine memberTokens_cons (List.cons_ne_nil _ _) ▸ .cons nofun rfl (.cons nofun trivial ?_)
      exact hd.append_cons nofun trivial (ih hm)

theorem scannable_tokens (h : Writable d) : Scannable (tokens d) := by
  induction h with
  | null => exact .singleton Token.legible_null
  | boolean b => exact .singleton (Token.legible_boolean b)
  | integer n => exact .singleton (Token.legible_integer n)
  | decimal hc hs hk => exact .singleton (Token.legible_of_literal rfl hc hs hk)
  | text s => exact .singleton rfl
  | list _ ih => exact .cons nofun trivial (scannable_itemTokens ih)
  | record _ ih => exact .cons nofun trivial (scannable_memberTokens ih)

namespace Reader

variable {stack : List Frame} {goal : Goal}

-- The tokens of a value put it where it belongs.
def Takes (d : Data) : Prop :=
  ∀ stack goal, goal = .value ∨ goal = .valueOrEnd →
    (tokens d).foldlM step ⟨stack, goal⟩ = finish d stack

theorem step_eq_readValue {t : Token} (hg : goal = .value ∨ goal = .valueOrEnd) (ht : t ≠ .endList) :
    step ⟨stack, goal⟩ t = readValue stack t := by
  rcases hg with rfl | rfl
  · rfl
  · cases t <;> first | rfl | exact absurd rfl ht

theorem takes_of_readValue {t : Token} (hd : tokens d = [t]) (ht : t ≠ .endList)
    (h : ∀ stack, readValue stack t = finish d stack) : Takes d := by
  intro stack goal hg
  rw [hd, List.foldlM_cons, step_eq_readValue hg ht, h]
  exact bind_pure _

theorem foldlM_itemTokens (h : ∀ d ∈ items, Takes d) (hne : items ≠ [])
    (hg : goal = .value ∨ goal = .valueOrEnd) (before : List Data) :
    (itemTokens items).foldlM step ⟨.list before :: stack, goal⟩ =
      close (.list (items.reverse ++ before) :: stack) := by
  induction items generalizing before goal with
  | nil => exact absurd rfl hne
  | cons d items ih =>
    have ⟨hd, hi⟩ := List.forall_mem_cons.mp h
    cases items
    case nil =>
      rw [itemTokens, List.foldlM_append, hd _ _ hg]
      exact bind_pure (close (.list (d :: before) :: stack))
    case cons =>
      rw [itemTokens_cons (List.cons_ne_nil _ _), List.foldlM_append, hd _ _ hg, List.reverse_cons,
        List.append_assoc]
      exact ih hi (List.cons_ne_nil _ _) (.inl rfl) (d :: before)

theorem takes_list (h : ∀ d ∈ items, Takes d) : Takes (.list items) := by
  intro stack goal hg
  have hs : step ⟨stack, goal⟩ .beginList = some ⟨.list [] :: stack, .valueOrEnd⟩ :=
    step_eq_readValue hg nofun
  rw [tokens, List.foldlM_cons, hs]
  cases items
  case nil => exact bind_pure (close (.list [] :: stack))
  case cons d items =>
    have hi : (itemTokens (d :: items)).foldlM step ⟨.list [] :: stack, .valueOrEnd⟩ =
        close (.list ((d :: items).reverse ++ []) :: stack) :=
      foldlM_itemTokens h (List.cons_ne_nil _ _) (.inr rfl) []
    rw [List.append_nil] at hi
    refine hi.trans ?_
    rw [close, Frame.data?, List.reverse_reverse]
    rfl

-- A member as it stands in a record that is open.
def named (m : String × Data) : Option String × Data :=
  (some m.1, m.2)

theorem foldlM_member (h : Takes d) (hg : goal = .name ∨ goal = .nameOrEnd)
    (before : List (Option String × Data)) (ts : List Token) :
    (.text (some name) :: .colon :: (tokens d ++ ts)).foldlM step ⟨.record before :: stack, goal⟩ =
      ts.foldlM step ⟨.record ((some name, d) :: before) :: stack, .commaOrEnd⟩ := by
  have hn : step ⟨.record before :: stack, goal⟩ (.text (some name)) =
      some ⟨.member (some name) before :: stack, .colon⟩ := by
    rcases hg with rfl | rfl <;> rfl
  have hc : step ⟨.member (some name) before :: stack, .colon⟩ .colon =
      some ⟨.member (some name) before :: stack, .value⟩ := rfl
  have hd : (tokens d).foldlM step ⟨.member (some name) before :: stack, .value⟩ =
      some ⟨.record ((some name, d) :: before) :: stack, .commaOrEnd⟩ := h _ _ (.inl rfl)
  simp only [List.foldlM_cons, List.foldlM_append, hn, hc, hd, Option.bind_eq_bind, Option.bind_some]

theorem foldlM_memberTokens (h : ∀ m ∈ members, Takes m.2) (hne : members ≠ [])
    (hg : goal = .name ∨ goal = .nameOrEnd) (before : List (Option String × Data)) :
    (memberTokens members).foldlM step ⟨.record before :: stack, goal⟩ =
      close (.record ((members.map named).reverse ++ before) :: stack) := by
  induction members generalizing before goal with
  | nil => exact absurd rfl hne
  | cons m members ih =>
    have ⟨hd, hm⟩ := List.forall_mem_cons.mp h
    cases members
    case nil =>
      exact (foldlM_member hd hg before [.endRecord]).trans
        (bind_pure (close (.record (named m :: before) :: stack)))
    case cons =>
      rw [memberTokens_cons (List.cons_ne_nil _ _), foldlM_member hd hg, List.map_cons, List.reverse_cons,
        List.append_assoc]
      exact ih hm (List.cons_ne_nil _ _) (.inl rfl) (named m :: before)

theorem takes_record (h : ∀ m ∈ members, Takes m.2) : Takes (.record members) := by
  intro stack goal hg
  have hs : step ⟨stack, goal⟩ .beginRecord = some ⟨.record [] :: stack, .nameOrEnd⟩ :=
    step_eq_readValue hg nofun
  rw [tokens, List.foldlM_cons, hs]
  cases members
  case nil => exact bind_pure (close (.record [] :: stack))
  case cons m members =>
    have hm : (memberTokens (m :: members)).foldlM step ⟨.record [] :: stack, .nameOrEnd⟩ =
        close (.record (((m :: members).map named).reverse ++ []) :: stack) :=
      foldlM_memberTokens h (List.cons_ne_nil _ _) (.inr rfl) []
    rw [List.append_nil] at hm
    refine hm.trans ?_
    rw [close, Frame.data?, List.reverse_reverse, mapM_map_eq_some]
    · rfl
    · intro m
      rfl

theorem takes_of_writable (h : Writable d) : Takes d := by
  induction h with
  | null      => exact takes_of_readValue rfl nofun fun _ => rfl
  | boolean   => exact takes_of_readValue rfl nofun fun _ => rfl
  | integer   => exact takes_of_readValue rfl nofun fun _ => rfl
  | decimal   => exact takes_of_readValue rfl nofun fun _ => rfl
  | text      => exact takes_of_readValue rfl nofun fun _ => rfl
  | list _ ih => exact takes_list ih
  | record _ ih => exact takes_record ih

end Reader

theorem ofTokens?_tokens (h : Writable d) : ofTokens? (tokens d) = some d := by
  rw [ofTokens?, Reader.takes_of_writable h _ _ (.inl rfl)]
  rfl

theorem ofText?_compact (h : Writable d) : ofText? (compact d) = some d := by
  have hs := scannable_tokens h
  rw [ofText?, compact, String.toList_ofList, Token.scan_flatMap_chars hs.legible hs.apart]
  exact ofTokens?_tokens h

end RequestQuery.Json
