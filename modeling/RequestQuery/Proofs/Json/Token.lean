import Mathlib.Data.List.Chain
import RequestQuery.Json.Token
import RequestQuery.Proofs.Decimal.Shortest
import RequestQuery.Proofs.Text.Hex

namespace RequestQuery.Json.Token

open Decimal

variable {c e : Char} {cs w rest : List Char} {l : Literal} {token : Token}

theorem scan_of_step {mode mode' : Mode} {tokens : List Token}
    (h : step mode c = some (tokens, mode')) :
    scan mode (c :: rest) = (tokens ++ ·) <$> scan mode' rest := by
  rw [scan, h]
  exact bind_pure_comp (tokens ++ ·) (scan mode' rest)

theorem scan_of_silent_step {mode mode' : Mode} (h : step mode c = some ([], mode')) :
    scan mode (c :: rest) = scan mode' rest := by
  rw [scan_of_step h]
  cases scan mode' rest <;> rfl

-- A character that a string holds as it stands.
structure IsPlain (c : Char) : Prop where
  ne_quote     : c ≠ '"'
  ne_backslash : c ≠ '\\'
  visible      : ¬c.toNat < 0x20

theorem isPlain_hexChar (case : Text.Hex.Case) (d : Fin 16) : IsPlain (Text.Hex.char case d) := by
  constructor <;> cases case <;> revert d <;> decide

theorem unescapedChar?_of_escapeChar? (h : escapeChar? c = some e) :
    unescapedChar? e = some c ∧ e ≠ 'u' := by
  unfold escapeChar? at h
  split at h <;> cases h <;> exact ⟨rfl, by decide⟩

theorem isPlain_of_escapeChar? (h : escapeChar? c = none) (hc : ¬c.toNat < 0x20) : IsPlain c where
  ne_quote     := by rintro rfl; cases h
  ne_backslash := by rintro rfl; cases h
  visible      := hc

theorem scan_plain (h : IsPlain c) :
    scan (.string cs false) (c :: rest) = scan (.string (c :: cs) false) rest := by
  apply scan_of_silent_step
  rw [step, if_neg h.ne_quote, if_neg h.visible, beq_false_of_ne h.ne_backslash]

theorem scan_plain_append (h : ∀ c ∈ w, IsPlain c) :
    scan (.string cs false) (w ++ rest) = scan (.string (w.reverse ++ cs) false) rest := by
  induction w generalizing cs with
  | nil => rfl
  | cons c w ih =>
    have ⟨hc, hw⟩ := List.forall_mem_cons.mp h
    rw [List.cons_append, scan_plain hc, ih hw, List.reverse_cons, List.append_assoc]
    rfl

theorem scan_backslash :
    scan (.string cs false) ('\\' :: c :: rest) = scan (.string (c :: '\\' :: cs) false) rest := by
  rw [scan_of_silent_step rfl, scan_of_silent_step rfl]

theorem scan_escaped :
    scan (.string cs false) (escaped c ++ rest) = scan (.string ((escaped c).reverse ++ cs) false) rest := by
  rw [escaped]
  split
  case h_1 => exact scan_backslash
  case h_2 h =>
    split
    case isTrue =>
      rw [List.cons_append, List.cons_append, scan_backslash, scan_plain_append]
      · simp
      · intro x hx
        have ⟨d, hd⟩ := Text.Hex.exists_of_mem_digits hx
        exact hd ▸ isPlain_hexChar .lower d
    case isFalse hc => exact scan_plain (isPlain_of_escapeChar? h hc)

theorem scan_flatMap_escaped (s : List Char) :
    scan (.string cs false) (s.flatMap escaped ++ rest) =
      scan (.string ((s.flatMap escaped).reverse ++ cs) false) rest := by
  induction s generalizing cs with
  | nil => rfl
  | cons c s ih =>
    rw [List.flatMap_cons, List.append_assoc, scan_escaped, ih, List.reverse_append, List.append_assoc]

-- The piece that a character is written as.
def piece (c : Char) : Piece :=
  if (escapeChar? c).isNone && c.toNat < 0x20 then .unit c.toNat else .char c

theorem pieces?_escaped : pieces? (escaped c ++ rest) = (piece c :: ·) <$> pieces? rest := by
  rw [escaped, piece]
  split
  case h_1 e h =>
    have ⟨hu, hne⟩ := unescapedChar?_of_escapeChar? h
    rw [List.cons_append, List.cons_append, pieces?, hu, h]
    · exact bind_pure_comp (Piece.char c :: ·) (pieces? rest)
    · exact fun _ _ _ _ _ he => absurd he hne
  case h_2 h =>
    split
    case isTrue hc =>
      have hv := Text.Hex.value?_digits .lower 4 c.toNat
      rw [Nat.mod_eq_of_lt (by omega)] at hv
      simp only [Text.Hex.digits, List.nil_append, List.cons_append] at hv ⊢
      rw [pieces?, hv, h]
      simp only [Option.isNone_none, hc, decide_true, Bool.and_self, if_true]
      exact bind_pure_comp (Piece.unit c.toNat :: ·) (pieces? rest)
    case isFalse hc =>
      have hp := isPlain_of_escapeChar? h hc
      have hg : (c != '\\') = true := bne_iff_ne.mpr hp.ne_backslash
      rw [List.cons_append, pieces?, h]
      · simp only [hg, hc, decide_false, Bool.and_false]
        exact bind_pure_comp (Piece.char c :: ·) (pieces? rest)
      · exact fun _ _ _ _ _ hb => absurd hb hp.ne_backslash
      · exact fun _ _ hb => absurd hb hp.ne_backslash

theorem pieces?_flatMap_escaped (s : List Char) : pieces? (s.flatMap escaped) = some (s.map piece) := by
  induction s with
  | nil => rfl
  | cons c s ih =>
    rw [List.flatMap_cons, pieces?_escaped, ih]
    rfl

theorem joined?_unit {n : Nat} (h : n < 0x20) (ps : List Piece) :
    joined? (.unit n :: ps) = (Char.ofNat n :: ·) <$> joined? ps := by
  have hh : isHigh n = false := by simp [isHigh]; omega
  have hl : isLow n = false := by simp [isLow]; omega
  rcases ps with _ | ⟨_ | _, _⟩ <;> simp [joined?, hh, hl]

theorem joined?_map_piece (s : List Char) : joined? (s.map piece) = some s := by
  induction s with
  | nil => rfl
  | cons c s ih =>
    rw [List.map_cons, piece]
    split
    case isTrue h =>
      have hc : c.toNat < 0x20 := by simp_all
      rw [joined?_unit hc, ih, Char.ofNat_toNat]
      rfl
    case isFalse =>
      rw [joined?, ih]
      rfl

theorem scan_quoted (s : String) :
    scan .between (quoted s ++ rest) = (text (some s) :: ·) <$> scan .between rest := by
  have hq : step (.string ((s.toList.flatMap escaped).reverse ++ []) false) '"' =
      some ([text (some s)], .between) := by
    rw [step, if_pos rfl, List.append_nil, List.reverse_reverse, pieces?_flatMap_escaped]
    simp [joined?_map_piece]
  rw [quoted, List.cons_append, List.cons_append, scan_of_silent_step rfl, List.append_assoc,
    scan_flatMap_escaped, List.cons_append, scan_of_step hq]
  rfl

theorem step_between_word (h : isWordChar c) : step .between c = some ([], .word [c]) := by
  have hm : mark? c = none := by
    unfold mark?
    split <;> first | rfl | cases h
  have hb : isBlank c = false := by
    simp only [isBlank, Bool.or_eq_false_iff, beq_eq_false_iff_ne]
    refine ⟨⟨⟨?_, ?_⟩, ?_⟩, ?_⟩ <;> rintro rfl <;> cases h
  have hq : c ≠ '"' := by rintro rfl; cases h
  rw [step, start, hm]
  simp only [hb, hq, h, if_true, if_false, Bool.false_eq_true]

theorem scan_word (hw : ∀ c ∈ w, isWordChar c) (hr : ∀ c ∈ rest.head?, ¬isWordChar c) :
    scan (.word cs) (w ++ rest) =
      atom? (cs.reverse ++ w) >>= fun token => (token :: ·) <$> scan .between rest := by
  induction w generalizing cs with
  | nil =>
    rw [List.nil_append, List.append_nil]
    cases rest
    case nil =>
      simp only [scan]
      cases atom? cs.reverse <;> rfl
    case cons c rest =>
      simp only [scan, step, hr c rfl]
      cases atom? cs.reverse
      case none => rfl
      case some token => cases start c <;> simp
  | cons c w ih =>
    have ⟨hc, hw⟩ := List.forall_mem_cons.mp hw
    rw [List.cons_append, scan_of_silent_step (by rw [step, if_pos hc]), ih hw, List.reverse_cons,
      List.append_assoc, List.singleton_append]

theorem isWordChar_of_mem_chars (h : c ∈ l.chars) : isWordChar c := by
  have hd (d : Digit) : isWordChar d.char := by revert d; decide
  have hs (s : Sign) : isWordChar s.char := by cases s <;> decide
  have hm {ds : List Digit} (h : c ∈ ds.map Digit.char) : isWordChar c := by
    have ⟨d, _, he⟩ := List.mem_map.mp h
    exact he ▸ hd d
  have ho {sign : Option Sign} (h : c ∈ (sign.map Sign.char).toList) : isWordChar c := by
    cases sign
    case none => cases h
    case some s => exact List.mem_singleton.mp h ▸ hs s
  obtain ⟨sign, whole, fraction, exponent⟩ := l
  rw [Literal.chars_eq, Literal.charsWith] at h
  simp only [List.mem_append] at h
  rcases h with h | h | h | h
  · exact ho h
  · exact hm h
  · cases fraction
    case none => cases h
    case some =>
      rcases List.mem_cons.mp h with rfl | h
      · decide
      · exact hm h
  · cases exponent
    case none => cases h
    case some =>
      rcases List.mem_append.mp h with h | h
      · rcases List.mem_cons.mp h with rfl | h
        · decide
        · exact ho h
      · exact hm h

theorem atom?_chars (hc : l.Complete) (hs : isStrict l) : atom? l.chars = some (.atom (.ofLiteral l)) := by
  have hl := Literal.ofChars?_chars hc
  have hn {s : List Char} (h : Literal.ofChars? s = none) : l.chars ≠ s := by
    rintro rfl
    rw [hl] at h
    cases h
  rw [atom?, if_neg (hn (by decide)), if_neg (hn (by decide)), if_neg (hn (by decide)), hl]
  exact if_pos hs

def isAtom : Token → Bool
  | atom _ => true
  | _      => false

-- A token that its characters determine.
def Legible : Token → Prop
  | text s => s.isSome
  | atom d =>
    (atom d).chars ≠ [] ∧ (∀ c ∈ (atom d).chars, isWordChar c) ∧ atom? (atom d).chars = some (atom d)
  | _ => True

-- Two tokens that may stand side by side.
def Apart (t₁ t₂ : Token) : Prop :=
  t₁.isAtom → ¬t₂.isAtom

theorem scan_chars_append (h : token.Legible) (hr : token.isAtom → ∀ c ∈ rest.head?, ¬isWordChar c) :
    scan .between (token.chars ++ rest) = (token :: ·) <$> scan .between rest := by
  cases token
  case text s =>
    have ⟨s', hs⟩ := Option.isSome_iff_exists.mp h
    rw [chars, hs]
    exact scan_quoted s'
  case atom d =>
    have ⟨hne, hw, ha⟩ := h
    have ⟨c, w, hc⟩ := List.exists_cons_of_ne_nil hne
    rw [hc] at hw ha ⊢
    have ⟨hc, hw⟩ := List.forall_mem_cons.mp hw
    rw [List.cons_append, scan_of_silent_step (step_between_word hc), scan_word hw (hr rfl)]
    exact congrArg (· >>= _) ha
  all_goals exact (scan_of_step rfl).trans rfl

theorem head?_chars {c : Char} (h : ¬token.isAtom) (hc : c ∈ (token.chars ++ rest).head?) :
    ¬isWordChar c := by
  cases token
  case atom => exact absurd rfl h
  all_goals
    cases hc
    decide

theorem scan_flatMap_chars {tokens : List Token} (hl : ∀ t ∈ tokens, t.Legible)
    (ha : tokens.IsChain Apart) : scan .between (tokens.flatMap chars) = some tokens := by
  induction tokens with
  | nil => rfl
  | cons token tokens ih =>
    have ⟨ht, hl⟩ := List.forall_mem_cons.mp hl
    have hr : token.isAtom → ∀ c ∈ (tokens.flatMap chars).head?, ¬isWordChar c := by
      cases tokens
      case nil => simp
      case cons next tokens => exact fun h c hc => head?_chars ((List.isChain_cons_cons.mp ha).1 h) hc
    rw [List.flatMap_cons, scan_chars_append ht hr, ih hl ha.tail]
    rfl

theorem isStrict_of_whole_eq_cons {d : Digit} {ds : List Digit} (hs : l.sign ≠ some .plus)
    (hw : l.whole = d :: ds) (hz : d = 0 → ds = []) (hf : l.fraction ≠ some []) : isStrict l := by
  have hd : (ds.length + 1 == 1 || d.val != 0) = true := by
    by_cases h : d = 0
    case pos => simp [hz h]
    case neg => simpa using .inr h
  rw [isStrict, hw, bne_iff_ne.mpr hs, bne_iff_ne.mpr hf]
  simpa using hd

theorem minus_ne_plus (p : Prop) [Decidable p] : (if p then some Sign.minus else none) ≠ some .plus := by
  split <;> simp

theorem isStrict_ofInt (n : Int) : isStrict (.ofInt n) := by
  obtain ⟨d, ds, hd, hz⟩ := Digit.ofNat_eq_cons n.natAbs
  exact isStrict_of_whole_eq_cons (minus_ne_plus _) hd (fun h => (hz h).1) (Option.some_ne_none _).symm

theorem isStrict_literal {layout : Layout} {negative : Bool} {d : Digit}
    {ds : List Digit} {power : Int} (h : d = 0 → ds = [] ∧ power = 0) :
    isStrict (layout.literal negative (d :: ds) power) := by
  have hs := minus_ne_plus negative
  rw [Layout.literal]
  split
  case isTrue =>
    split
    case isTrue =>
      exact isStrict_of_whole_eq_cons hs rfl (fun h0 => by simp [h h0]) (by simp)
    case isFalse =>
      split
      case isTrue hp hl =>
        obtain ⟨k, hk, hlt⟩ : ∃ k, (power + (d :: ds).length - 1 + 1).toNat = k + 1 ∧ k < ds.length := by
          rw [List.length_cons] at hl ⊢
          exact ⟨(power + ds.length).toNat, by omega, by omega⟩
        rw [hk, List.take_succ_cons, List.drop_succ_cons]
        refine isStrict_of_whole_eq_cons hs rfl (fun h0 => by simp [h h0]) ?_
        simpa using hlt
      case isFalse => exact isStrict_of_whole_eq_cons hs rfl (fun _ => rfl) (by simp)
  case isFalse =>
    refine isStrict_of_whole_eq_cons hs rfl (fun _ => rfl) ?_
    cases ds <;> simp

theorem isStrict_shortest (x : Binary64) : isStrict x.shortest := by
  rcases x.shortest_eq with ⟨n, power, hl, hp⟩ | he
  · obtain ⟨d, ds, hd, hz⟩ := Digit.ofNat_eq_cons n
    rw [hl, hd]
    exact isStrict_literal fun h => ⟨(hz h).1, hp (hz h).2⟩
  · obtain ⟨d, ds, hd, hz⟩ := Digit.ofNat_eq_cons (x.significand <<< x.shift * Nat.pow 5 1074)
    rw [he]
    exact isStrict_of_whole_eq_cons (minus_ne_plus _) hd (fun h => (hz h).1) (Option.some_ne_none _).symm

theorem legible_null : (atom .null).Legible :=
  ⟨by decide, List.all_eq_true.mp (by decide), rfl⟩

theorem legible_boolean (b : Bool) : (atom (.boolean b)).Legible := by
  cases b <;> exact ⟨by decide, List.all_eq_true.mp (by decide), rfl⟩

theorem legible_of_literal {d : Data} (hd : (atom d).chars = l.chars) (hc : l.Complete)
    (hs : isStrict l) (hl : .ofLiteral l = d) : (atom d).Legible := by
  refine ⟨?_, ?_, ?_⟩ <;> rw [hd]
  · intro h
    have hl := Literal.ofChars?_chars hc
    rw [h] at hl
    cases hl
  · exact fun c => isWordChar_of_mem_chars
  · rw [atom?_chars hc hs, hl]

theorem chars_integer (n : Int) : (atom (.integer n)).chars = (Literal.ofInt n).chars := by
  have hs : (if n < 0 then ['-'] else []) = ((Literal.ofInt n).sign.map Sign.char).toList := by
    rw [Literal.ofInt]
    split <;> rfl
  rw [chars, intChars, Literal.chars_eq, Literal.charsWith, hs]
  exact congrArg (_ ++ ·) (List.append_nil _).symm

theorem legible_integer (n : Int) : (atom (.integer n)).Legible := by
  have hl : Data.ofLiteral (.ofInt n) = .integer n := by
    rw [Data.ofLiteral, Literal.integer?_ofInt]
    exact if_neg fun ⟨h0, hn⟩ => by simp [Literal.negative, Literal.ofInt, h0] at hn
  exact legible_of_literal (chars_integer n) (Literal.complete_ofInt n) (isStrict_ofInt n) hl

end RequestQuery.Json.Token
