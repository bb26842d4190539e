import RequestQuery.Proofs.Filter.Clause

namespace RequestQuery.Clause

open Text

variable {c : Char} {cs v inner inner' body body' behind kept : List Char} {parts : List (List Char)}

def firstLine (cs : List Char) : List Char :=
  cs.takeWhile (· != '\n')

theorem ne_newline (h : '\n' ∉ cs) : ∀ c ∈ cs, (c != '\n') = true := by
  intro c hc
  have hn : c ≠ '\n' := fun he => h (he ▸ hc)
  simpa using hn

-- A list is opened in front of `inner`.
def Opens (v inner : List Char) : Prop :=
  ∃ blanks, v = "in".toList ++ blanks ++ '(' :: inner ∧ ∀ c ∈ blanks, isBlank c

-- The last closing parenthesis of the first line stands between `body` and `behind`.
structure Closes (inner body behind : List Char) : Prop where
  inner : inner = body ++ ')' :: behind
  line  : '\n' ∉ body
  last  : ')' ∉ firstLine behind

namespace list

-- The last steps of the shape of a list: a line, and the parenthesis that closes the list.
def line : Step :=
  { kind := (· != '\n'), repeated := true, kept := true }

def closed? : List Char → Option (List Char) :=
  Shape.fit? (list.drop 5)

theorem closed?_cons (c : Char) (cs : List Char) :
    closed? (c :: cs) = if c = ')' then some [] else none := by
  simp [closed?, list, Shape.fit?, Step.once?, Step.keep]

theorem closed?_eq_some_iff : closed? cs = some kept ↔ ∃ behind, cs = ')' :: behind ∧ kept = [] := by
  cases cs with
  | nil => simp [closed?, list, Shape.fit?, Step.once?]
  | cons c cs => simp [closed?_cons, eq_comm]

theorem run?_line_eq_none_iff : line.run? closed? cs = none ↔ ')' ∉ firstLine cs := by
  induction cs with
  | nil => simp [firstLine]; rfl
  | cons c cs ih =>
    rw [Step.run?_cons, Option.or_eq_none_iff, Option.map_eq_none_iff, ite_eq_right_iff, ih,
      closed?_cons]
    by_cases hc : c = '\n'
    case pos => simp [firstLine, hc, line]
    case neg =>
      have hl : firstLine (c :: cs) = c :: firstLine cs := by simp [firstLine, hc]
      rw [hl, List.mem_cons, not_or, eq_comm (a := ')')]
      simp [line, hc, and_comm]

theorem ends_line_iff : line.Ends closed? (')' :: behind) ↔ ')' ∉ firstLine behind := by
  rw [Step.ends_cons_iff, run?_line_eq_none_iff]
  exact ⟨fun h => h rfl, fun h _ => h⟩

-- The line goes on up to its last closing parenthesis.
theorem run?_line_eq_some_iff :
    line.run? closed? inner = some body ↔ ∃ behind, Closes inner body behind := by
  rw [Step.run?_eq_some_iff rfl]
  constructor
  case mp =>
    intro ⟨run, tail, kept, hi, hb, hr, hc, he⟩
    obtain ⟨behind, rfl, rfl⟩ := closed?_eq_some_iff.mp hc
    rw [List.append_nil] at hb
    refine ⟨behind, hb ▸ hi, fun hn => ?_, ends_line_iff.mp he⟩
    exact absurd (hr '\n' (hb ▸ hn)) (by decide)
  case mpr =>
    intro ⟨behind, hi, hl, he⟩
    have hr : ∀ c ∈ body, line.kind c := ne_newline hl
    have hc : closed? (')' :: behind) = some [] := closed?_eq_some_iff.mpr ⟨behind, rfl, rfl⟩
    exact ⟨body, _, [], hi, (List.append_nil body).symm, hr, hc, ends_line_iff.mpr he⟩

theorem fit?_blanks (cs : List Char) :
    Shape.fit? (list.drop 2) cs = Shape.fit? (list.drop 3) (cs.dropWhile isBlank) := by
  refine Step.run?_eq_dropWhile rfl (fun c cs hc => ?_) cs
  have hp : c ≠ '(' := by
    rintro rfl
    exact absurd hc (by decide)
  simp [Shape.fit?, Step.once?, hp]

theorem fit?_eq_some_iff :
    list.fit? v = some body ↔ ∃ inner, Opens v inner ∧ line.run? closed? inner = some body := by
  have hs : list.fit? = Step.once? { kind := (· == 'i') }
      (Step.once? { kind := (· == 'n') } (Shape.fit? (list.drop 2))) := rfl
  have hp : Shape.fit? (list.drop 3) = Step.once? { kind := (· == '(') } (line.run? closed?) := rfl
  rw [hs, Step.once?_eq_some_iff rfl]
  simp only [Step.once?_eq_some_iff, fit?_blanks, hp, beq_iff_eq]
  constructor
  case mp =>
    rintro ⟨_, _, rfl, rfl, _, cs, rfl, rfl, _, inner, hd, rfl, hr⟩
    refine ⟨inner, ⟨cs.takeWhile isBlank, ?_, List.all_eq_true.mp List.all_takeWhile⟩, hr⟩
    rw [List.append_assoc, ← hd, List.takeWhile_append_dropWhile]
    rfl
  case mpr =>
    rintro ⟨inner, ⟨blanks, rfl, hb⟩, hr⟩
    have hd : (blanks ++ '(' :: inner).dropWhile isBlank = '(' :: inner :=
      (List.dropWhile_append_of_pos hb).trans rfl
    exact ⟨'i', _, rfl, rfl, 'n', _, rfl, rfl, '(', inner, hd, rfl, hr⟩

end list

open list

theorem items?_eq_some_iff {items : List (List Char)} :
    items? v = some items ↔
      ∃ inner body behind, Opens v inner ∧ Closes inner body behind ∧
        (body.splitOn ',').map (trim ∘ unquoted) = items := by
  rw [items?, Option.map_eq_some_iff]
  simp only [fit?_eq_some_iff, run?_line_eq_some_iff]
  constructor
  case mp  => exact fun ⟨body, ⟨inner, ho, behind, hc⟩, hi⟩ => ⟨inner, body, behind, ho, hc, hi⟩
  case mpr => exact fun ⟨inner, body, behind, ho, hc, hi⟩ => ⟨body, ⟨inner, ho, behind, hc⟩, hi⟩

theorem Closes.mem_firstLine (h : Closes inner body behind) : ')' ∈ firstLine inner := by
  rw [h.inner, firstLine, List.takeWhile_append_of_pos (ne_newline h.line)]
  simp

theorem exists_closes (h : ')' ∈ firstLine inner) : ∃ body behind, Closes inner body behind := by
  have hn : line.run? closed? inner ≠ none := fun hn => run?_line_eq_none_iff.mp hn h
  have ⟨body, hb⟩ := Option.ne_none_iff_exists'.mp hn
  exact ⟨body, run?_line_eq_some_iff.mp hb⟩

theorem items?_eq_none_iff : items? v = none ↔ ¬∃ inner, Opens v inner ∧ ')' ∈ firstLine inner where
  mp hn := by
    intro ⟨inner, ho, hm⟩
    obtain ⟨body, behind, hc⟩ := exists_closes hm
    cases hn.symm.trans (items?_eq_some_iff.mpr ⟨inner, body, behind, ho, hc, rfl⟩)
  mpr hn := by
    refine Option.eq_none_iff_forall_ne_some.mpr fun items hi => hn ?_
    obtain ⟨inner, body, behind, ho, hc, _⟩ := items?_eq_some_iff.mp hi
    exact ⟨inner, ho, hc.mem_firstLine⟩

-- The parts of a text between its commas.
structure Parts (body : List Char) (parts : List (List Char)) : Prop where
  joined : [','].intercalate parts = body
  apart  : ∀ part ∈ parts, ',' ∉ part
  length : parts.length = body.count ',' + 1

theorem parts_splitOn (body : List Char) : Parts body (body.splitOn ',') where
  joined := List.intercalate_splitOn ','
  apart part hp hc := by simpa using (mem_and_not_of_mem_splitOnP hp _ hc).2
  length := length_splitOnP body

theorem predicate_equal_of_closes (ho : Opens v inner) (hc : Closes inner body behind) :
    predicate .equal v = .oneOf ((body.splitOn ',').map fun part => .ofList (trim (unquoted part))) := by
  have hi := items?_eq_some_iff.mpr ⟨inner, body, behind, ho, hc, rfl⟩
  simp only [predicate, hi, List.map_map, Function.comp_def]

theorem predicate_equal_eq_oneOf_iff {values : List String} :
    predicate .equal v = .oneOf values ↔
      ∃ inner body behind, Opens v inner ∧ Closes inner body behind ∧
        ((body.splitOn ',').map fun part => .ofList (trim (unquoted part))) = values where
  mp h := by
    rw [predicate] at h
    split at h
    case h_1 items hi =>
      obtain ⟨inner, body, behind, ho, hc, rfl⟩ := items?_eq_some_iff.mp hi
      rw [List.map_map] at h
      exact ⟨inner, body, behind, ho, hc, Predicate.oneOf.inj h⟩
    case h_2 => cases h
  mpr h := by
    obtain ⟨inner, body, behind, ho, hc, rfl⟩ := h
    exact predicate_equal_of_closes ho hc

theorem Opens.unique (h : Opens v inner) (h' : Opens v inner') : inner = inner' := by
  have hd {inner} (h : Opens v inner) : (v.drop 2).dropWhile isBlank = '(' :: inner := by
    obtain ⟨blanks, rfl, hb⟩ := h
    exact (List.dropWhile_append_of_pos hb).trans rfl
  exact (List.cons_eq_cons.mp ((hd h).symm.trans (hd h'))).2

-- A parenthesis behind the last one of the line is one too many.
theorem Closes.behind_eq_nil (h : Closes (body' ++ [')']) body behind)
    (hc : body'.count ')' = body.count ')') : behind = [] := by
  have hn : ')' ∉ behind := by
    have hi := congrArg (List.count ')') h.inner
    simp only [List.count_append, List.count_cons_self, List.count_nil] at hi
    exact List.count_eq_zero.mp (by omega)
  rcases List.eq_nil_or_concat behind with rfl | ⟨init, c, rfl⟩
  · rfl
  · have hl := congrArg List.getLast? h.inner
    rw [List.concat_eq_append, ← List.cons_append, ← List.append_assoc, List.getLast?_concat,
      List.getLast?_concat] at hl
    obtain rfl := Option.some.inj hl
    simp at hn

-- Of the body of a list, the items hold all but commas, quotes and blanks.
theorem Parts.filter_items {q : Char → Bool} (h : Parts body parts)
    (hb : ∀ c, q c → isBlank c = false) (hc : q ',' = false) (hq : q '\'' = false) :
    (parts.flatMap (trim ∘ unquoted)).filter q = body.filter q := by
  rw [← h.joined, filter_intercalate hc, List.filter_flatMap]
  simp only [Function.comp_apply, filter_trim hb, filter_unquoted hq]

-- What stands behind the last closing parenthesis of the line is not looked at. Quotes are removed
-- before the blanks, so that blanks between the quotes of an item are lost as well.
theorem predicate_equal (v : List Char) :
    ((∃ values, predicate .equal v = .oneOf values) ↔
      ∃ inner, Opens v inner ∧ ')' ∈ firstLine inner) ∧
    (∀ inner, Opens v inner → ')' ∈ firstLine inner →
      ∃ body behind parts, Closes inner body behind ∧ Parts body parts ∧
        predicate .equal v = .oneOf (parts.map fun part => .ofList (trim (unquoted part)))) ∧
    ((¬∃ inner, Opens v inner ∧ ')' ∈ firstLine inner) →
      predicate .equal v = .equals (.ofList (unquoted v))) := by
  refine ⟨⟨fun ⟨values, hp⟩ => ?_, fun ⟨inner, ho, hm⟩ => ?_⟩, fun inner ho hm => ?_, fun hn => ?_⟩
  · have ⟨inner, _, _, ho, hc, _⟩ := predicate_equal_eq_oneOf_iff.mp hp
    exact ⟨inner, ho, hc.mem_firstLine⟩
  · have ⟨body, behind, hc⟩ := exists_closes hm
    exact ⟨_, predicate_equal_of_closes ho hc⟩
  · have ⟨body, behind, hc⟩ := exists_closes hm
    exact ⟨body, behind, _, hc, parts_splitOn body, predicate_equal_of_closes ho hc⟩
  · rw [predicate, items?_eq_none_iff.mpr hn]

example :
    predicate .equal "in ((a), ' b',\t'',c)d\n)".toList = .oneOf ["(a)", "b", "", "c"] := by
  decide +kernel

end RequestQuery.Clause
