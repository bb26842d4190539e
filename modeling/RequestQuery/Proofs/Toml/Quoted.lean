import Mathlib.Data.Option.Basic
import RequestQuery.Proofs.Text.Hex
import RequestQuery.Proofs.Toml.Form

namespace RequestQuery.Toml

open Token Quoted

variable {f : Form} {c e : Char} {cs body rest chunk : List Char} {run : Nat}

namespace Quoted

-- There are at most `n` quotes in a row, those right before the text counted in.
def RunsWithin (q : Char) (n run : Nat) (cs : List Char) : Prop :=
  ∀ first others, cs.splitOnP (· != q) = first :: others →
    run + first.length ≤ n ∧ ∀ r ∈ others, r.length ≤ n

theorem runsWithin_longestRun (q : Char) (cs : List Char) : RunsWithin q (longestRun q cs) 0 cs := by
  have hf (runs : List (List Char)) (n : Nat) :
      n ≤ runs.foldl (fun n run => max n run.length) n ∧
        ∀ r ∈ runs, r.length ≤ runs.foldl (fun n run => max n run.length) n := by
    induction runs generalizing n with
    | nil => simp
    | cons r runs ih =>
      have ⟨hn, hr⟩ := ih (max n r.length)
      rw [List.foldl_cons]
      exact ⟨by omega, List.forall_mem_cons.mpr ⟨by omega, hr⟩⟩
  intro first others hs
  have hl : ∀ r ∈ first :: others, r.length ≤ longestRun q cs := hs ▸ (hf (cs.splitOnP (· != q)) 0).2
  have ⟨hr, ho⟩ := List.forall_mem_cons.mp hl
  exact ⟨(Nat.zero_add _).symm ▸ hr, ho⟩

variable {q : Char} {n : Nat}

theorem RunsWithin.mono {m : Nat} (h : RunsWithin q m run cs) (hm : m ≤ n) : RunsWithin q n run cs :=
  fun first others hs => ⟨by have := (h first others hs).1; omega, fun r hr => by
    have := (h first others hs).2 r hr; omega⟩

theorem RunsWithin.of_quote (h : RunsWithin q n run (q :: cs)) : RunsWithin q n (run + 1) cs := by
  intro first others hs
  have hc : (q :: cs).splitOnP (· != q) = (q :: first) :: others := by
    rw [List.splitOnP_cons_eq_if_modifyHead, hs]
    simp
  have ⟨hf, ho⟩ := h _ _ hc
  rw [List.length_cons] at hf
  exact ⟨by omega, ho⟩

theorem RunsWithin.of_other (h : RunsWithin q n run (c :: cs)) (hc : c ≠ q) :
    run ≤ n ∧ RunsWithin q n 0 cs := by
  have hs : (c :: cs).splitOnP (· != q) = [] :: cs.splitOnP (· != q) := by
    rw [List.splitOnP_cons_eq_if_modifyHead]
    simp [hc]
  have ⟨hf, ho⟩ := h _ _ hs
  refine ⟨hf, fun first others hs => ?_⟩
  have ⟨hr, ho⟩ := List.forall_mem_cons.mp (hs ▸ ho)
  exact ⟨(Nat.zero_add _).symm ▸ hr, ho⟩

theorem RunsWithin.le (h : RunsWithin q n run cs) : run ≤ n := by
  have ⟨first, others, hs⟩ := List.exists_cons_of_ne_nil (List.splitOnP_ne_nil (· != q) cs)
  exact Nat.le_trans (Nat.le_add_right ..) (h first others hs).1

theorem holds_raw (hq : RunsWithin f.quote.char f.admitted run cs) (hf : f.quote = .single)
    (hv : ∀ c ∈ cs, isControl c = false ∨ c = '\t' ∨ (f.long ∧ c = '\n')) : f.Holds run cs := by
  induction cs generalizing run with
  | nil => exact .nil hq.le
  | cons c cs ih =>
    have ⟨hc, hcs⟩ := List.forall_mem_cons.mp hv
    by_cases h : c = f.quote.char
    case pos =>
      subst h
      obtain ⟨quote, long⟩ := f
      cases long
      case false => exact absurd hq.of_quote.le (by simp [Form.admitted])
      case true => exact .quote hq.of_quote.le (ih hq.of_quote hcs)
    case neg =>
      have ⟨hr, hq⟩ := hq.of_other h
      exact .plain ⟨h, fun hd => absurd (hf.symm.trans hd) (by decide), hc⟩ hr (ih hq hcs)

-- The letter that stands for a character behind a backslash.
structure Letter (e c : Char) : Prop where
  visible  : isControl e = false
  read     : Token.escapedChar? e = some c
  ne_digit : e ≠ 'x' ∧ e ≠ 'u' ∧ e ≠ 'U'
  not_cut  : (isGapChar e || isLineChar e) = false

theorem letter_quote : Letter '"' '"' :=
  ⟨rfl, rfl, by decide, rfl⟩

theorem letter_of_escapeLetter? (h : escapeLetter? c = some e) : Letter e c := by
  unfold escapeLetter? at h
  split at h <;> cases h <;> exact ⟨rfl, rfl, by decide, rfl⟩

-- How a character other than a quote is written.
inductive Escape (c : Char) : List Char → Prop
  | letter {e : Char} (h : Letter e c) : Escape c ['\\', e]
  | number (h : isControl c) : Escape c ('\\' :: 'u' :: Text.Hex.digits .upper 4 c.toNat)
  | plain (hc : isControl c = false) (hb : c ≠ '\\') : Escape c [c]

theorem escape_escapedChar (c : Char) : Escape c (Quoted.escapedChar c) := by
  rw [Quoted.escapedChar]
  split
  case h_1 h => exact .letter (letter_of_escapeLetter? h)
  case h_2 h =>
    split
    case isTrue hc => exact .number hc
    case isFalse hc => exact .plain (by simpa using hc) (by rintro rfl; cases h)

theorem isControl_hexChar (d : Fin 16) : isControl (Text.Hex.char .upper d) = false := by
  revert d; decide

theorem plain_hexChar (f : Form) (d : Fin 16) : f.Plain (Text.Hex.char .upper d) where
  ne_quote     := by cases f.quote <;> revert d <;> decide
  ne_backslash := fun _ => by revert d; decide
  visible      := .inl (isControl_hexChar d)

theorem Escape.isControl_eq_false (h : Escape c chunk) {x : Char} (hx : x ∈ chunk) :
    isControl x = false := by
  cases h
  case letter h =>
    rcases List.mem_cons.mp hx with rfl | hx
    · rfl
    · exact List.mem_singleton.mp hx ▸ h.visible
  case number =>
    rcases List.mem_cons.mp hx with rfl | hx
    · rfl
    · rcases List.mem_cons.mp hx with rfl | hx
      · rfl
      · have ⟨d, hd⟩ := Text.Hex.exists_of_mem_digits hx
        exact hd ▸ isControl_hexChar d
  case plain hc _ => exact List.mem_singleton.mp hx ▸ hc

variable {long : Bool}

theorem Escape.scan (h : Escape c chunk) (hq : c ≠ '"') (hr : run ≤ (Form.mk .double long).admitted) :
    Token.scan ((Form.mk .double long).inside cs run) (chunk ++ rest) =
      Token.scan ((Form.mk .double long).inside (chunk.reverse ++ (.replicate run '"' ++ cs)) 0) rest := by
  cases h
  case letter h => exact Form.scan_backslash h.visible hr
  case number =>
    have hd : ∀ x ∈ Text.Hex.digits .upper 4 c.toNat, (Form.mk .double long).Plain x := by
      intro x hx
      have ⟨d, hd⟩ := Text.Hex.exists_of_mem_digits hx
      exact hd ▸ plain_hexChar _ d
    rw [List.cons_append, List.cons_append, Form.scan_backslash rfl hr, Form.scan_plain_append hd]
    simp
  case plain hc hb => exact Form.scan_plain ⟨hq, fun _ => hb, .inl hc⟩ hr

theorem holds_escaped (hr : run ≤ (Form.mk .double long).admitted) :
    (Form.mk .double long).Holds run (escaped long (Form.mk .double long).admitted run cs) := by
  induction cs generalizing run with
  | nil => exact .nil hr
  | cons c cs ih =>
    rw [escaped]
    split
    case isTrue hq =>
      subst hq
      split
      case isTrue h =>
        cases long
        case false => cases h
        case true => exact .quote h (ih h)
      case isFalse => exact .backslash letter_quote.visible hr (ih (Nat.zero_le _))
    case isFalse hq =>
      split
      case isTrue h =>
        obtain ⟨rfl, rfl⟩ := h
        exact .plain ⟨by decide, fun _ => by decide, .inr (.inr ⟨rfl, rfl⟩)⟩ hr (ih (Nat.zero_le _))
      case isFalse => exact .append (fun _ _ => (escape_escapedChar c).scan hq hr) (ih (Nat.zero_le _))

-- The text between double quotes.
def unescaped? (body : List Char) : Option (List Char) :=
  pieces? body >>= joined? .no

-- A piece that is not part of a cut.
inductive Shows (c : Char) : Piece → Prop
  | raw     : Shows c (.raw c)
  | escaped : Shows c (.escaped c)

theorem unescaped?_append {p : Piece} (h : pieces? (chunk ++ rest) = (p :: ·) <$> pieces? rest)
    (hp : Shows c p) : unescaped? (chunk ++ rest) = (c :: ·) <$> unescaped? rest := by
  rw [unescaped?, unescaped?, h]
  cases pieces? rest
  case none => rfl
  case some ps => cases hp <;> rfl

theorem unescaped?_letter (h : Letter e c) :
    unescaped? ('\\' :: e :: rest) = (c :: ·) <$> unescaped? rest := by
  have ⟨hx, hu, hU⟩ := h.ne_digit
  have hp : pieces? (['\\', e] ++ rest) = (.escaped c :: ·) <$> pieces? rest := by
    rw [List.cons_append, List.cons_append, List.nil_append, pieces?]
    · simp only [h.not_cut, h.read]
      exact bind_pure_comp (Piece.escaped c :: ·) (pieces? rest)
    · exact fun _ _ _ he => absurd he hx
    · exact fun _ _ _ _ _ he => absurd he hu
    · exact fun _ _ _ _ _ _ _ _ _ he => absurd he hU
  exact unescaped?_append hp .escaped

theorem scalar?_digits (h : isControl c) : scalar? (Text.Hex.digits .upper 4 c.toNat) = some c := by
  have hc : c.toNat < 16 ^ 4 := by
    simp [isControl] at h
    omega
  rw [scalar?, Text.Hex.value?_digits, Nat.mod_eq_of_lt hc]
  simp only [Option.bind_eq_bind, Option.bind_some, Char.ofNat_toNat]
  exact if_pos c.valid

theorem unescaped?_number (h : isControl c) :
    unescaped? ('\\' :: 'u' :: Text.Hex.digits .upper 4 c.toNat ++ rest) = (c :: ·) <$> unescaped? rest := by
  have hp : pieces? ('\\' :: 'u' :: Text.Hex.digits .upper 4 c.toNat ++ rest) =
      (.escaped c :: ·) <$> pieces? rest := by
    have hs := scalar?_digits h
    simp only [Text.Hex.digits, List.nil_append, List.cons_append] at hs ⊢
    rw [pieces?, hs]
    exact bind_pure_comp (Piece.escaped c :: ·) (pieces? rest)
  exact unescaped?_append hp .escaped

theorem unescaped?_plain (h : c ≠ '\\') : unescaped? (c :: rest) = (c :: ·) <$> unescaped? rest := by
  have hp : pieces? ([c] ++ rest) = (.raw c :: ·) <$> pieces? rest := by
    rw [List.cons_append, List.nil_append, pieces?]
    · simp only [bne_iff_ne.mpr h]
      exact bind_pure_comp (Piece.raw c :: ·) (pieces? rest)
    · exact fun _ _ _ hb => absurd hb h
    · exact fun _ _ _ _ _ hb => absurd hb h
    · exact fun _ _ _ _ _ _ _ _ _ hb => absurd hb h
    · exact fun _ _ hb => absurd hb h
  exact unescaped?_append hp .raw

theorem Escape.unescaped? (h : Escape c chunk) :
    Quoted.unescaped? (chunk ++ rest) = (c :: ·) <$> Quoted.unescaped? rest := by
  cases h
  case letter h => exact unescaped?_letter h
  case number h => exact unescaped?_number h
  case plain hb => exact unescaped?_plain hb

theorem unescaped?_escaped (long : Bool) (admitted run : Nat) (cs : List Char) :
    unescaped? (escaped long admitted run cs) = some cs := by
  induction cs generalizing run with
  | nil => rfl
  | cons c cs ih =>
    rw [escaped]
    split
    case isTrue hq =>
      subst hq
      split
      case isTrue => rw [unescaped?_plain (by decide), ih]; rfl
      case isFalse => rw [unescaped?_letter letter_quote, ih]; rfl
    case isFalse =>
      split
      case isTrue h => rw [unescaped?_plain (h.1 ▸ by decide), ih]; rfl
      case isFalse => rw [(escape_escapedChar c).unescaped?, ih]; rfl

-- Of the characters that do not show only line ends are left as they are.
theorem isControl_of_mem_escaped {admitted : Nat} {x : Char} (h : x ∈ escaped long admitted run cs) :
    isControl x = false ∨ (x = '\n' ∧ '\n' ∈ cs) := by
  induction cs generalizing run with
  | nil => cases h
  | cons c cs ih =>
    have ih {run} (h : x ∈ escaped long admitted run cs) :
        isControl x = false ∨ (x = '\n' ∧ '\n' ∈ c :: cs) :=
      (ih h).imp_right (.imp_right (List.mem_cons_of_mem _))
    rw [escaped] at h
    split at h
    case isTrue hq =>
      subst hq
      split at h
      case isTrue =>
        rcases List.mem_cons.mp h with rfl | h
        · exact .inl rfl
        · exact ih h
      case isFalse =>
        rcases List.mem_cons.mp h with rfl | h
        · exact .inl rfl
        · rcases List.mem_cons.mp h with rfl | h
          · exact .inl rfl
          · exact ih h
    case isFalse =>
      split at h
      case isTrue hn =>
        rcases List.mem_cons.mp h with rfl | h
        · exact .inr ⟨hn.1, List.mem_cons.mpr (.inl hn.1.symm)⟩
        · exact ih h
      case isFalse =>
        rcases List.mem_append.mp h with h | h
        · exact .inl ((escape_escapedChar c).isControl_eq_false h)
        · exact ih h

-- What stands between the quotes in some form, but for the line end that opens it.
def inner (f : Form) (cs : List Char) : List Char :=
  match f.quote with
  | .double => escaped f.long f.admitted 0 cs
  | .single => cs

def opener (f : Form) (cs : List Char) : List Char :=
  if f.long && cs.contains '\n' then ['\n'] else []

theorem chars_eq (cs : List Char) :
    chars cs = delimiter (form cs) ++ ((opener (form cs) cs ++ inner (form cs) cs) ++ delimiter (form cs)) := by
  simp only [chars, opener, List.append_assoc]
  rfl

-- A form that can hold a text.
structure Fits (f : Form) (cs : List Char) : Prop where
  visible : f.quote = .single → ∀ c ∈ cs, isControl c = false ∨ c = '\t' ∨ (f.long ∧ c = '\n')
  quotes  : f.quote = .single → RunsWithin f.quote.char f.admitted 0 cs

theorem visible_of_any_needsEscape (h : cs.any needsEscape = false) (hc : c ∈ cs) :
    isControl c = false ∨ c = '\t' ∨ c = '\n' := by
  have hn := List.any_eq_false.mp h c hc
  by_cases ht : c = '\t'
  case pos => exact .inr (.inl ht)
  case neg =>
    cases hv : isControl c
    case false => exact .inl rfl
    case true => exact .inr (.inr (by simpa [needsEscape, hv, ht] using hn))

theorem fits_double (long : Bool) (cs : List Char) : Fits ⟨.double, long⟩ cs :=
  ⟨nofun, nofun⟩

theorem fits_single (hv : cs.any needsEscape = false) (hn : long ∨ '\n' ∉ cs)
    (hq : longestRun Quote.single.char cs ≤ (Form.mk .single long).admitted) :
    Fits ⟨.single, long⟩ cs where
  visible _ c hc := by
    refine (visible_of_any_needsEscape hv hc).imp_right (.imp_right fun h => ⟨?_, h⟩)
    exact hn.resolve_right fun hn => hn (h ▸ hc)
  quotes _ := (runsWithin_longestRun _ cs).mono hq

theorem fits_form (cs : List Char) : Fits (form cs) cs := by
  simp only [form, Bool.and_eq_true, Bool.not_eq_true', beq_iff_eq, decide_eq_true_eq]
  split
  case isTrue => exact fits_double ..
  case isFalse =>
    split
    case isTrue h =>
      exact fits_single h.1.1 (.inr (by simpa using h.2)) (Nat.le_of_eq h.1.2)
    case isFalse =>
      split
      case isTrue => exact fits_double ..
      case isFalse =>
        split
        case isTrue h => exact fits_single h.1 (.inl rfl) h.2
        case isFalse => exact fits_double ..

variable {f : Form}

theorem holds_inner (h : Fits f cs) : f.Holds 0 (inner f cs) := by
  obtain ⟨quote, long⟩ := f
  cases quote
  case double => exact holds_escaped (Nat.zero_le _)
  case single => exact holds_raw (h.quotes rfl) rfl (h.visible rfl)

theorem holds_body (h : Fits f cs) : f.Holds 0 (opener f cs ++ inner f cs) := by
  rw [opener]
  split
  case isTrue hl =>
    have hl : f.long := (Bool.and_eq_true_iff.mp hl).1
    have hn : f.Plain '\n' := ⟨by cases f.quote <;> decide, fun _ => by decide, .inr (.inr ⟨hl, rfl⟩)⟩
    exact .plain hn (Nat.zero_le _) (holds_inner h)
  case isFalse => exact holds_inner h

theorem isControl_of_mem_inner (h : Fits f cs) {x : Char} (hx : x ∈ inner f cs) :
    isControl x = false ∨ x = '\t' ∨ (x = '\n' ∧ '\n' ∈ cs) := by
  obtain ⟨quote, long⟩ := f
  cases quote
  case double => exact (isControl_of_mem_escaped hx).imp_right .inr
  case single =>
    rcases h.visible rfl x hx with h | h | ⟨_, rfl⟩
    · exact .inl h
    · exact .inr (.inl h)
    · exact .inr (.inr ⟨rfl, hx⟩)

theorem hasWholeLineEnds_of_not_mem (h : '\r' ∉ cs) : hasWholeLineEnds cs := by
  induction cs with
  | nil => rfl
  | cons c cs ih =>
    have ⟨hc, hcs⟩ : '\r' ≠ c ∧ '\r' ∉ cs := by simpa using h
    simp [hasWholeLineEnds, ih hcs, Ne.symm hc]

theorem withoutFirstLineEnd_opener (hr : '\r' ∉ body) (hn : '\n' ∈ body → '\n' ∈ cs) (hl : f.long) :
    withoutFirstLineEnd (opener f cs ++ body) = body := by
  rw [opener, hl]
  by_cases h : '\n' ∈ cs
  case pos =>
    simp [h, withoutFirstLineEnd]
  case neg =>
    have hb : '\n' ∉ body := fun hm => h (hn hm)
    simp only [h, List.contains_eq_mem]
    cases body
    case nil => rfl
    case cons c body =>
      have ⟨hr, _⟩ : '\r' ≠ c ∧ '\r' ∉ body := by simpa using hr
      have ⟨hn, _⟩ : '\n' ≠ c ∧ '\n' ∉ body := by simpa using hb
      simp [withoutFirstLineEnd, Ne.symm hr, Ne.symm hn]

theorem content?_body (h : Fits f cs) : f.content? (opener f cs ++ inner f cs) = some cs := by
  have hr : '\r' ∉ inner f cs := fun hm => by
    rcases isControl_of_mem_inner h hm with h | h | h
    · cases h
    · exact absurd h (by decide)
    · exact absurd h.1 (by decide)
  have hn : '\n' ∈ inner f cs → '\n' ∈ cs := fun hm => by
    rcases isControl_of_mem_inner h hm with h | h | h
    · cases h
    · exact absurd h (by decide)
    · exact h.2
  have hb : (if f.long then withoutFirstLineEnd (opener f cs ++ inner f cs) else opener f cs ++ inner f cs) =
      inner f cs := by
    split
    case isTrue hl => exact withoutFirstLineEnd_opener hr hn hl
    case isFalse hl => simp [opener, hl]
  have hw := hasWholeLineEnds_of_not_mem hr
  rw [Form.content?, hb]
  obtain ⟨quote, long⟩ := f
  cases quote
  case double => exact (if_pos hw).trans (unescaped?_escaped ..)
  case single => exact if_pos hw

theorem Escape.head?_ne_quote (h : Escape c chunk) (hc : c ≠ '"') : (chunk ++ rest).head? ≠ some '"' := by
  cases h
  case letter => simp
  case number => simp
  case plain  => simpa using hc

theorem head?_body (h : Fits f cs) (hs : f.long = false) :
    (opener f cs ++ inner f cs).head? ≠ some f.quote.char := by
  obtain ⟨quote, long⟩ := f
  cases hs
  cases cs
  case nil => cases quote <;> nofun
  case cons c cs =>
    cases quote
    case double =>
      simp only [opener, inner, escaped, Form.admitted]
      by_cases hq : c = '"'
      case pos => simp [hq, Quote.char]
      case neg => simpa [hq, Quote.char] using (escape_escapedChar c).head?_ne_quote hq
    case single =>
      rintro ⟨⟩
      exact absurd (h.quotes rfl).of_quote.le (by decide)

theorem scan_chars (cs : List Char) :
    Token.scan .between (chars cs ++ '\n' :: rest) =
      ([(form cs).token cs, .newline] ++ ·) <$> Token.scan .between rest := by
  have h := fits_form cs
  rw [chars_eq, List.append_assoc, List.append_assoc, Form.scan_opening (head?_body h),
    Form.scan_body (holds_body h) (content?_body h)]

end Quoted

end RequestQuery.Toml
