import RequestQuery.Toml.Quoted
import RequestQuery.Proofs.Toml.Token

namespace RequestQuery.Toml

open Token Quoted

variable {f : Form} {c e : Char} {cs body rest chunk : List Char} {run : Nat}

namespace Form

-- Within a string: the characters before the quotes in a row, the latest first, and how many these are.
def inside (f : Form) (cs : List Char) (run : Nat) : Mode :=
  if f.long then .longText f.quote cs false run else .text f.quote cs false

-- How many quotes may stand in a row as they are.
def admitted (f : Form) : Nat :=
  if f.long then 2 else 0

-- A character that stands for itself.
structure Plain (f : Form) (c : Char) : Prop where
  ne_quote     : c ≠ f.quote.char
  ne_backslash : f.quote = .double → c ≠ '\\'
  visible      : isControl c = false ∨ c = '\t' ∨ (f.long ∧ c = '\n')

theorem scan_plain (h : f.Plain c) (hr : run ≤ f.admitted) :
    scan (f.inside cs run) (c :: rest) =
      scan (f.inside (c :: (.replicate run f.quote.char ++ cs)) 0) rest := by
  obtain ⟨hq, hb, hv⟩ := h
  obtain ⟨quote, long⟩ := f
  have he : (quote == .double && c == '\\') = false := by
    cases quote
    case double => simpa using hb rfl
    case single => rfl
  apply scan_of_silent_step
  cases long
  case false =>
    obtain rfl := Nat.le_zero.mp hr
    have hc : (isControl c && c != '\t') = false := by
      rcases hv with hv | rfl | ⟨hv, _⟩
      · simp [hv]
      · rfl
      · cases hv
    simp [inside, step, step.stepText, hq, hc, he]
  case true =>
    have hc : (isControl c && c != '\t' && !isLineChar c) = false := by
      rcases hv with hv | rfl | ⟨_, rfl⟩
      · simp [hv]
      · rfl
      · rfl
    have hr : ¬3 ≤ run := Nat.not_le_of_lt (Nat.lt_succ_of_le hr)
    simp [inside, step, step.stepLongText, hq, hc, he, hr]

theorem scan_plain_append (h : ∀ c ∈ chunk, f.Plain c) :
    scan (f.inside cs 0) (chunk ++ rest) = scan (f.inside (chunk.reverse ++ cs) 0) rest := by
  induction chunk generalizing cs with
  | nil => rfl
  | cons c chunk ih =>
    have ⟨hc, hs⟩ := List.forall_mem_cons.mp h
    rw [List.cons_append, scan_plain hc (Nat.zero_le _), ih hs, List.reverse_cons, List.append_assoc]
    rfl

theorem scan_backslash {long : Bool} (he : isControl e = false) (hr : run ≤ (mk .double long).admitted) :
    scan ((mk .double long).inside cs run) ('\\' :: e :: rest) =
      scan ((mk .double long).inside (e :: '\\' :: (.replicate run '"' ++ cs)) 0) rest := by
  cases long
  case false =>
    obtain rfl := Nat.le_zero.mp hr
    have hs : step (.text .double cs false) '\\' = some ([], .text .double ('\\' :: cs) true) := rfl
    rw [inside, if_neg (by decide), scan_of_silent_step hs]
    apply scan_of_silent_step
    simp [inside, step, step.stepText, he]
  case true =>
    have hr : ¬3 ≤ run := Nat.not_le_of_lt (Nat.lt_succ_of_le hr)
    have hs : step (.longText .double cs false run) '\\' =
        some ([], .longText .double ('\\' :: (.replicate run '"' ++ cs)) true 0) := by
      rw [step, if_neg (by decide), if_neg hr]
      rfl
    rw [inside, if_pos rfl, scan_of_silent_step hs]
    apply scan_of_silent_step
    simp [inside, step, step.stepLongText, he]

theorem scan_quote {quote : Quote} (hr : run < 4) :
    scan ((mk quote true).inside cs run) (quote.char :: rest) =
      scan ((mk quote true).inside cs (run + 1)) rest := by
  apply scan_of_silent_step
  rw [inside, if_pos rfl, step, if_pos rfl, if_neg (by omega)]
  rfl

-- A body at the end of which the string is still open.
def Holds (f : Form) (run : Nat) (body : List Char) : Prop :=
  ∀ cs, ∃ cs' run', run' ≤ f.admitted ∧
    List.replicate run' f.quote.char ++ cs' =
      body.reverse ++ (.replicate run f.quote.char ++ cs) ∧
    ∀ rest, scan (f.inside cs run) (body ++ rest) = scan (f.inside cs' run') rest

namespace Holds

theorem nil (hr : run ≤ f.admitted) : f.Holds run [] :=
  fun cs => ⟨cs, run, hr, rfl, fun _ => rfl⟩

theorem append
    (hc : ∀ cs rest, scan (f.inside cs run) (chunk ++ rest) =
      scan (f.inside (chunk.reverse ++ (.replicate run f.quote.char ++ cs)) 0) rest)
    (h : f.Holds 0 body) : f.Holds run (chunk ++ body) := by
  intro cs
  have ⟨cs', run', hr, hb, hs⟩ := h (chunk.reverse ++ (.replicate run f.quote.char ++ cs))
  refine ⟨cs', run', hr, ?_, fun rest => ?_⟩
  · rw [hb, List.reverse_append, List.append_assoc]
    rfl
  · rw [List.append_assoc, hc, hs]

theorem quote {quote : Quote} (hr : run < 2) (h : (mk quote true).Holds (run + 1) body) :
    (mk quote true).Holds run (quote.char :: body) := by
  intro cs
  have ⟨cs', run', hr', hb, hs⟩ := h cs
  refine ⟨cs', run', hr', ?_, fun rest => ?_⟩
  · rw [hb, List.reverse_cons, List.append_assoc]
    rfl
  · rw [List.cons_append, scan_quote (Nat.lt_trans hr (by decide)), hs]

theorem plain (hc : f.Plain c) (hr : run ≤ f.admitted) (h : f.Holds 0 body) : f.Holds run (c :: body) :=
  have hs (cs rest) : scan (f.inside cs run) ([c] ++ rest) = _ := scan_plain hc hr
  append hs h

theorem backslash {long : Bool} (he : isControl e = false) (hr : run ≤ (mk .double long).admitted)
    (h : (mk .double long).Holds 0 body) : (mk .double long).Holds run ('\\' :: e :: body) :=
  have hs (cs rest) : scan ((mk .double long).inside cs run) (['\\', e] ++ rest) = _ :=
    scan_backslash he hr
  append hs h

end Holds

-- The token that a string is.
def token (f : Form) (cs : List Char) : Token :=
  if f.long then .longText cs else .text cs

-- The text that stands for a body.
def content? (f : Form) (body : List Char) : Option (List Char) :=
  Token.content? f.quote (if f.long then withoutFirstLineEnd body else body)

theorem scan_newline {mode : Mode} {tokens : List Token} (h : step mode c = some (tokens, .between)) :
    scan mode (c :: '\n' :: rest) = (tokens ++ [.newline] ++ ·) <$> scan .between rest := by
  have hn : step .between '\n' = some ([.newline], .between) := rfl
  rw [scan_of_step h, scan_of_step hn]
  cases scan .between rest <;> simp

theorem scan_short {quote : Quote} {text : List Char} (hc : (mk quote false).content? cs.reverse = some text) :
    scan ((mk quote false).inside cs 0) (quote.char :: '\n' :: rest) =
      ([.text text, .newline] ++ ·) <$> scan .between rest := by
  have hc : closeText quote cs = some (.text text) := congrArg (Token.text <$> ·) hc
  have hs : step ((mk quote false).inside cs 0) quote.char = some ([.text text], .between) := by
    simp [inside, step, step.stepText, hc]
  exact scan_newline hs

theorem scan_long {quote : Quote} {text : List Char} (hr : run ≤ 2)
    (hc : (mk quote true).content? (cs.reverse ++ .replicate run quote.char) = some text) :
    scan ((mk quote true).inside cs run) (quote.char :: quote.char :: quote.char :: '\n' :: rest) =
      ([.longText text, .newline] ++ ·) <$> scan .between rest := by
  have hc : closeLongText quote cs (run + 3) = some (.longText text) := congrArg (Token.longText <$> ·) hc
  rw [scan_quote (by omega), scan_quote (by omega)]
  by_cases h : run = 2
  case pos =>
    subst h
    have hs : step ((mk quote true).inside cs 4) quote.char = some ([.longText text], .between) := by
      simp [inside, step, hc]
    exact scan_newline hs
  case neg =>
    rw [scan_quote (by omega)]
    have hq : '\n' ≠ quote.char := by cases quote <;> decide
    have hs : step ((mk quote true).inside cs (run + 3)) '\n' = startAfter [.longText text] '\n' := by
      simp [inside, step, hc, hq]
    rw [scan_of_step hs]
    rfl

theorem scan_delimiter {text : List Char} (hr : run ≤ f.admitted)
    (hc : f.content? (.replicate run f.quote.char ++ cs).reverse = some text) :
    scan (f.inside cs run) (delimiter f ++ '\n' :: rest) =
      ([f.token text, .newline] ++ ·) <$> scan .between rest := by
  obtain ⟨quote, long⟩ := f
  cases long
  case false =>
    obtain rfl := Nat.le_zero.mp hr
    exact scan_short hc
  case true =>
    rw [List.reverse_append, List.reverse_replicate] at hc
    exact scan_long hr hc

theorem scan_body {text : List Char} (h : f.Holds 0 body) (hc : f.content? body = some text) :
    scan (f.inside [] 0) (body ++ (delimiter f ++ '\n' :: rest)) =
      ([f.token text, .newline] ++ ·) <$> scan .between rest := by
  have ⟨cs, run, hr, hb, hs⟩ := h []
  rw [hs, scan_delimiter hr]
  rw [hb]
  simpa using hc

theorem scan_opening (h : f.long = false → body.head? ≠ some f.quote.char) :
    scan .between (delimiter f ++ (body ++ (delimiter f ++ '\n' :: rest))) =
      scan (f.inside [] 0) (body ++ (delimiter f ++ '\n' :: rest)) := by
  obtain ⟨quote, long⟩ := f
  have hq : step .between quote.char = some ([], .opening quote false) := by cases quote <;> rfl
  have ho : step (.opening quote false) quote.char = some ([], .opening quote true) := if_pos rfl
  cases long
  case true =>
    have hl : step (.opening quote true) quote.char = some ([], .longText quote [] false 0) := if_pos rfl
    have hd : delimiter ⟨quote, true⟩ = [quote.char, quote.char, quote.char] := rfl
    rw [hd, List.cons_append, List.cons_append, List.cons_append, scan_of_silent_step hq,
      scan_of_silent_step ho, scan_of_silent_step hl]
    rfl
  case false =>
    have hd : delimiter ⟨quote, false⟩ = [quote.char] := rfl
    rw [hd, List.singleton_append, scan_of_silent_step hq]
    cases body
    case nil =>
      have hs : step (.opening quote true) '\n' = startAfter [.text []] '\n' := by cases quote <;> rfl
      have hc : (mk quote false).content? [] = some [] := by cases quote <;> rfl
      rw [List.nil_append, List.singleton_append, scan_of_silent_step ho, scan_of_step hs, scan_short hc]
      rfl
    case cons c body =>
      have hs : step (.opening quote false) c = step ((mk quote false).inside [] 0) c :=
        if_neg fun hc => h rfl (congrArg some hc)
      simp only [List.cons_append, scan, hs]

end Form

end RequestQuery.Toml
