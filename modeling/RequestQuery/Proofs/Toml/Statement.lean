import RequestQuery.Proofs.Toml.Document
import RequestQuery.Proofs.Toml.Quoted
import RequestQuery.Proofs.Toml.Scalar

namespace RequestQuery.Toml

open Token

variable {key : String} {d : Data} {token : Token} {tokens : List Token} {cs value : List Char}

-- A key that is written as it is.
structure Bare (key : String) : Prop where
  ne_empty : key ≠ ""
  chars    : ∀ c ∈ key.toList, Key.isBareChar c ∧ c ≠ '.' ∧ endsWord c = false
  not_date : isReversedDate key.toList.reverse = false

instance : Decidable (Bare key) :=
  decidable_of_iff (key ≠ "" ∧ (key.toList.all fun c => Key.isBareChar c && (c != '.' && !endsWord c)) ∧
    isReversedDate key.toList.reverse = false)
    ⟨fun ⟨he, hc, hd⟩ => ⟨he, by simpa using hc, hd⟩,
      fun ⟨he, hc, hd⟩ => ⟨he, by simpa using hc, hd⟩⟩

theorem Bare.ofTokens? (h : Bare key) : Key.ofTokens? [.word key.toList] = some [key] := by
  have hd : '.' ∉ key.toList := fun hm => (h.chars '.' hm).2.1 rfl
  have hc : key.toList.all fun c => Key.isBareChar c || c == '.' :=
    List.all_eq_true.mpr fun c hm => by simp [(h.chars c hm).1]
  have hp : Key.parts? (.word key.toList) = some [some key] := by
    simp [Key.parts?, hc, Text.splitOn_eq_singleton hd, h.ne_empty]
  simp [Key.ofTokens?, hp, Key.path?, Key.lengthLimit]

theorem Bare.scan {c : Char} {rest : List Char} (h : Bare key) (hc : endsWord c = true) :
    Token.scan .between (key.toList ++ c :: rest) =
      (.word key.toList :: ·) <$> Token.scan .between (c :: rest) :=
  scan_between_word (by simpa using h.ne_empty) (fun c hm => (h.chars c hm).2.2) hc h.not_date

-- The tokens that may be a value by themselves.
def Token.isScalar : Token → Bool
  | .word _ | .text _ | .longText _ => true
  | _ => false

-- Characters that stand for a value if a line ends behind them.
structure Denotes (value : List Char) (d : Data) (token : Token) : Prop where
  scalar : token.isScalar
  scan   : ∀ rest, Token.scan .between (value ++ '\n' :: rest) =
    ([token, .newline] ++ ·) <$> Token.scan .between rest
  read   : Value.ofTokens? [token] = some d

theorem denotes_chars (cs : List Char) :
    Denotes (Quoted.chars cs) (.text (.ofList cs)) ((Quoted.form cs).token cs) := by
  refine ⟨?_, fun rest => Quoted.scan_chars cs, ?_⟩ <;> rw [Form.token] <;> split <;> rfl

theorem denotes_word {w : List Char} (hne : w ≠ []) (hw : w.any endsWord = false) (hd : '-' ∉ w)
    (hr : Scalar.ofWord? w = some d) : Denotes w d (.word w) where
  scalar := rfl
  scan rest := by
    have hn : step .between '\n' = some ([.newline], .between) := rfl
    have hd : isReversedDate w.reverse = false := isReversedDate_eq_false (by simpa using hd)
    rw [scan_between_word hne (by simpa using hw) rfl hd, scan_of_step hn]
    cases Token.scan .between rest <;> rfl
  read := by simp [Value.ofTokens?, Value.Reader.step, Value.Reader.readValue, hr, Value.Reader.finish,
    Value.Reader.result?]

theorem denotes_boolean (b : Bool) :
    Denotes (if b then "true".toList else "false".toList) (.boolean b)
      (.word (if b then "true".toList else "false".toList)) := by
  cases b <;> exact denotes_word (by decide) (by decide) (by decide) rfl

theorem denotes_size (n : UInt64) :
    Denotes ((Decimal.Digit.ofNat n.toNat).map Decimal.Digit.char) (.integer n.toNat)
      (.word ((Decimal.Digit.ofNat n.toNat).map Decimal.Digit.char)) := by
  have hd (d : Decimal.Digit) : endsWord d.char = false := by revert d; decide
  have hn : Scalar.withinRange n.toNat := by
    have h := n.toNat_lt
    simp [Scalar.withinRange]
    omega
  refine denotes_word ?_ ?_ (Decimal.Digit.notMem_map_char '-' rfl) (Scalar.ofWord?_ofNat hn)
  · simpa using Decimal.Digit.ofNat_ne_nil n.toNat
  · simpa using fun d _ => hd d

def statements? (cs : List Char) : Option (List Statement) :=
  Token.scan .between cs >>= fun tokens =>
    List.filterMap id <$> (Statement.lines 0 tokens).mapM Statement.ofLine?

-- Whole lines, with the statements that they make whatever lines follow.
def Says (cs : List Char) (statements : List Statement) : Prop :=
  ∀ rest, statements? (cs ++ rest) = (statements ++ ·) <$> statements? rest

namespace Says

variable {cs₁ cs₂ : List Char} {s₁ s₂ : List Statement}

theorem nil : Says [] [] := by
  intro rest
  rw [List.nil_append]
  cases statements? rest <;> rfl

theorem append (h₁ : Says cs₁ s₁) (h₂ : Says cs₂ s₂) : Says (cs₁ ++ cs₂) (s₁ ++ s₂) := by
  intro rest
  rw [List.append_assoc, h₁, h₂]
  cases statements? rest <;> simp

-- A line is cut off at its end and read by itself.
theorem line {s : Option Statement}
    (hs : ∀ rest, Token.scan .between (cs ++ rest) = (tokens ++ .newline :: ·) <$> Token.scan .between rest)
    (hl : ∀ rest, Statement.lines 0 (tokens ++ .newline :: rest) = tokens :: Statement.lines 0 rest)
    (ho : Statement.ofLine? tokens = some s) : Says cs s.toList := by
  intro rest
  rw [statements?, statements?, hs]
  cases Token.scan .between rest
  case none => rfl
  case some ts =>
    simp only [Option.map_eq_map, Option.map_some, Option.bind_eq_bind, Option.bind_some, hl,
      List.mapM_cons, ho]
    cases (Statement.lines 0 ts).mapM Statement.ofLine?
    case none => rfl
    case some => cases s <;> rfl

theorem blank : Says ['\n'] [] := by
  have hn : step .between '\n' = some ([.newline], .between) := rfl
  have hs (rest : List Char) : Token.scan .between (['\n'] ++ rest) =
      ([] ++ .newline :: ·) <$> Token.scan .between rest := scan_of_step hn
  exact line hs (fun _ => rfl) rfl

theorem header (key : String) (h : Bare key) : Says ('[' :: key.toList ++ "]\n".toList) [.table [key]] := by
  have hs (rest : List Char) : Token.scan .between ('[' :: key.toList ++ "]\n".toList ++ rest) =
      ([.beginList, .word key.toList, .endList] ++ .newline :: ·) <$> Token.scan .between rest := by
    have hb : step .between '[' = some ([.beginList], .between) := rfl
    have he : step .between ']' = some ([.endList], .between) := rfl
    have hn : step .between '\n' = some ([.newline], .between) := rfl
    have hc : "]\n".toList ++ rest = ']' :: '\n' :: rest := rfl
    rw [List.cons_append, List.cons_append, List.append_assoc, hc, scan_of_step hb, h.scan rfl,
      scan_of_step he, scan_of_step hn]
    cases Token.scan .between rest <;> rfl
  have hh : Statement.header? [.endList] [.word key.toList, .endList] = some [key] := h.ofTokens?
  exact line hs (fun _ => rfl) (congrArg ((some ∘ Statement.table) <$> ·) hh)

theorem ofLine?_row (hk : Bare key) (hr : Value.ofTokens? [token] = some d) :
    Statement.ofLine? [.word key.toList, .gap, .equals, .gap, token] = some (some (.assignment [key] d)) := by
  have ho : Statement.ofLine? [.word key.toList, .gap, .equals, .gap, token] =
      Key.ofTokens? [.word key.toList] >>= fun path => Value.ofTokens? [token] >>= fun d =>
        some (some (.assignment path d)) := by
    cases token <;> rfl
  rw [ho, hk.ofTokens?, hr]
  rfl

theorem row (hk : Bare key) (hv : Denotes value d token) :
    Says (key.toList ++ " = ".toList ++ value ++ ['\n']) [.assignment [key] d] := by
  have hs (rest : List Char) : Token.scan .between (key.toList ++ " = ".toList ++ value ++ ['\n'] ++ rest) =
      ([.word key.toList, .gap, .equals, .gap, token] ++ .newline :: ·) <$> Token.scan .between rest := by
    have hg : step .between ' ' = some ([.gap], .between) := rfl
    have he : step .between '=' = some ([.equals], .between) := rfl
    have hc : " = ".toList ++ (value ++ '\n' :: rest) = ' ' :: '=' :: ' ' :: (value ++ '\n' :: rest) := rfl
    simp only [List.append_assoc, List.singleton_append]
    rw [hc, hk.scan rfl, scan_of_step hg, scan_of_step he, scan_of_step hg, hv.scan]
    cases Token.scan .between rest <;> rfl
  have hl (rest : List Token) :
      Statement.lines 0 ([.word key.toList, .gap, .equals, .gap, token] ++ .newline :: rest) =
        [.word key.toList, .gap, .equals, .gap, token] :: Statement.lines 0 rest := by
    have ht := hv.scalar
    cases token <;> first | rfl | cases ht
  exact line hs hl (ofLine?_row hk hv.read)

end Says

theorem withoutMark_eq (h : cs.head? ≠ some '\uFEFF') : withoutMark cs = cs := by
  cases cs
  case nil => rfl
  case cons c cs =>
    have hc : c ≠ '\uFEFF' := by simpa using h
    simp [withoutMark, hc]

-- A text of such lines is read as what its statements come to.
theorem ofText?_of_says {text : String} {statements : List Statement}
    (hm : text.toList.head? ≠ some '\uFEFF') (h : Says text.toList statements) :
    ofText? text = ofStatements? statements := by
  have hs : statements? text.toList = some statements := by
    have hr := h []
    rw [List.append_nil] at hr
    exact hr.trans (congrArg some (List.append_nil statements))
  have ht : ofText? text = statements? (withoutMark text.toList) >>= ofStatements? := by
    rw [ofText?, statements?]
    cases Token.scan .between (withoutMark text.toList)
    case none => rfl
    case some tokens =>
      simp only [Option.bind_eq_bind, Option.bind_some]
      cases (Statement.lines 0 tokens).mapM Statement.ofLine? <;> rfl
  rw [ht, withoutMark_eq hm, hs]
  rfl

end RequestQuery.Toml
