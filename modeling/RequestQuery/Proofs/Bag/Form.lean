import Mathlib.Data.List.Forall2
import RequestQuery.Proofs.Bag
import RequestQuery.Proofs.Text.Hex
import RequestQuery.Proofs.Text.Utf8

namespace RequestQuery

namespace Form

open Text

-- Bytes with two hexadecimal digits each, every digit in a letter case of its own.
inductive Escaped : List UInt8 → List Char → Prop
  | nil : Escaped [] []
  | cons (b : UInt8) (hi lo : Hex.Case) {bs : List UInt8} {text : List Char} (h : Escaped bs text) :
      Escaped (b :: bs) ('%' :: Hex.char hi (Fin.ofNat 16 (b.toNat / 16)) ::
        Hex.char lo (Fin.ofNat 16 b.toNat) :: text)

-- One character. Some characters cannot stand for themselves anywhere, others just not here.
inductive Spelled (reserved : List Char) (c : Char) : List Char → Prop
  | raw (h : c ∉ ['&', '+', '%']) (hr : c ∉ reserved) : Spelled reserved c [c]
  | plus (h : c = ' ') : Spelled reserved c ['+']
  | escaped {text : List Char} (h : Escaped (String.utf8EncodeChar c) text) : Spelled reserved c text

inductive Spells (reserved : List Char) : List Char → List Char → Prop
  | nil : Spells reserved [] []
  | cons {c : Char} {cs chunk text : List Char} (hc : Spelled reserved c chunk)
      (h : Spells reserved cs text) : Spells reserved (c :: cs) (chunk ++ text)

-- The first equals sign ends the name, and the value may hold more of them.
inductive SpellsPair : String × String → List Char → Prop
  | intro {name value : String} {left right : List Char} (hn : Spells ['='] name.toList left)
      (hv : Spells [] value.toList right) : SpellsPair (name, value) (left ++ '=' :: right)

def SpellsQuery (pairs : List (String × String)) (text : List Char) : Prop :=
  ∃ pieces, List.Forall₂ SpellsPair pairs pieces ∧ text = ['&'].intercalate pieces

variable {reserved cs text : List Char} {c a : Char} {b : UInt8} {bs rest : List UInt8} {s : String}
  {entry : String × String} {entries : List (String × String)} {pieces : List (List Char)}

-- What may stand for itself may stand so all along.
theorem Spells.raw (h : cs.all (· ∉ '&' :: '+' :: '%' :: reserved)) : Spells reserved cs cs := by
  induction cs with
  | nil => exact .nil
  | cons c cs ih =>
    rw [List.all_cons, Bool.and_eq_true] at h
    have hr : c ∉ ['&', '+', '%'] ∧ c ∉ reserved := by simpa [and_assoc] using h.1
    exact .cons (.raw hr.1 hr.2) (ih h.2)

section

-- What the separators separate does not hold them.

theorem Escaped.notMem (h : Escaped bs text) (ha : a ∈ ['&', '=']) : a ∉ text := by
  have digit_ne (case : Hex.Case) (d : Fin 16) : a ≠ Hex.char case d := by
    rintro rfl
    revert d
    cases case <;> decide
  have mark_ne : a ≠ '%' := by
    rintro rfl
    revert ha
    decide
  induction h with
  | nil => exact List.not_mem_nil
  | cons b hi lo h ih => simp [digit_ne, mark_ne, ih]

theorem Spelled.notMem (h : Spelled reserved c text) (ha : a ∈ ['&', '=']) (hr : a ∈ '&' :: reserved) :
    a ∉ text := by
  cases h
  case raw h hc =>
    intro hm
    obtain rfl := List.mem_singleton.mp hm
    rcases List.mem_cons.mp hr with rfl | hr
    · exact h (.head _)
    · exact hc hr
  case plus =>
    intro hm
    obtain rfl := List.mem_singleton.mp hm
    revert ha
    decide
  case escaped h => exact h.notMem ha

theorem Spells.notMem (h : Spells reserved cs text) (ha : a ∈ ['&', '=']) (hr : a ∈ '&' :: reserved) :
    a ∉ text := by
  induction h with
  | nil => exact List.not_mem_nil
  | cons hc h ih => simp [hc.notMem ha hr, ih]

theorem SpellsPair.notMem (h : SpellsPair entry text) : '&' ∉ text := by
  obtain ⟨hn, hv⟩ := h
  have hn := hn.notMem (a := '&') (.head _) (.head _)
  have hv := hv.notMem (a := '&') (.head _) (.head _)
  simp [hn, hv]

end

-- The bytes of a text, with a space in place of each plus.
def received (text : List Char) : List UInt8 :=
  (Utf8.encode text).map fun b => if b = '+'.toUInt8 then ' '.toUInt8 else b

theorem received_append (cs ds : List Char) : received (cs ++ ds) = received cs ++ received ds := by
  rw [received, Utf8.encode_append, List.map_append]
  rfl

theorem received_digit (case : Hex.Case) (d : Fin 16) (text : List Char) :
    received (Hex.char case d :: text) = (Hex.char case d).toUInt8 :: received text := by
  have h : received [Hex.char case d] = [(Hex.char case d).toUInt8] := by
    cases case <;> revert d <;> decide
  rw [← List.singleton_append, received_append, h]
  rfl

-- No other character has a byte that looks like a plus.
theorem received_raw (h : c ≠ '+') : received [c] = String.utf8EncodeChar c := by
  rw [received, Utf8.encode_singleton]
  refine (List.map_congr_left fun b hb => ?_).trans (List.map_id _)
  have hp : b ≠ '+'.toUInt8 := by
    rintro rfl
    exact h (Utf8.eq_of_toUInt8_mem_utf8EncodeChar (by decide) hb)
  exact if_neg hp

theorem percentDecoded_cons (h : b ≠ '%'.toUInt8) :
    percentDecoded (b :: rest) = b :: percentDecoded rest := by
  match rest with
  | []  => rfl
  | [_] => rfl
  | hi :: lo :: rest =>
    have hn : percentDecoded.escaped? b hi lo = none := by
      rw [percentDecoded.escaped?, beq_eq_false_iff_ne.mpr h]
      rfl
    rw [percentDecoded, hn]

theorem percentDecoded_append (h : '%'.toUInt8 ∉ bs) :
    percentDecoded (bs ++ rest) = bs ++ percentDecoded rest := by
  induction bs with
  | nil => rfl
  | cons b bs ih =>
    rw [List.mem_cons, not_or] at h
    rw [List.cons_append, percentDecoded_cons (Ne.symm h.1), ih h.2, List.cons_append]

theorem percentDecoded_escape (b : UInt8) (hi lo : Hex.Case) :
    percentDecoded ('%'.toUInt8 :: (Hex.char hi (Fin.ofNat 16 (b.toNat / 16))).toUInt8 ::
      (Hex.char lo (Fin.ofNat 16 b.toNat)).toUInt8 :: rest) = b :: percentDecoded rest := by
  have hb : 16 * (b.toNat / 16 % 16) + b.toNat % 16 = b.toNat := by
    have := b.toNat_lt
    omega
  have he : percentDecoded.escaped? '%'.toUInt8 (Hex.char hi (Fin.ofNat 16 (b.toNat / 16))).toUInt8
      (Hex.char lo (Fin.ofNat 16 b.toNat)).toUInt8 = some b := by
    rw [percentDecoded.escaped?, Hex.ofUInt8_toUInt8_char, Hex.ofUInt8_toUInt8_char, Hex.digit?_char,
      Hex.digit?_char]
    show some (UInt8.ofNat (16 * (b.toNat / 16 % 16) + b.toNat % 16)) = some b
    rw [hb, UInt8.ofNat_toNat]
  rw [percentDecoded, he]

theorem Escaped.percentDecoded_received (h : Escaped bs text) :
    percentDecoded (received text ++ rest) = bs ++ percentDecoded rest := by
  induction h with
  | nil => rfl
  | cons b hi lo h ih =>
    rw [← List.singleton_append, received_append, received_digit, received_digit]
    show percentDecoded ('%'.toUInt8 :: _ :: _ :: (received _ ++ rest)) = _
    rw [percentDecoded_escape, ih, List.cons_append]

theorem Spelled.percentDecoded_received (h : Spelled reserved c text) :
    percentDecoded (received text ++ rest) = String.utf8EncodeChar c ++ percentDecoded rest := by
  cases h
  case raw h hr =>
    simp only [List.mem_cons, List.not_mem_nil, or_false, not_or] at h
    have hm : '%'.toUInt8 ∉ String.utf8EncodeChar c := fun hm =>
      h.2.2 (Utf8.eq_of_toUInt8_mem_utf8EncodeChar (by decide) hm)
    rw [received_raw h.2.1, percentDecoded_append hm]
  case plus h =>
    rw [h]
    exact percentDecoded_cons (by decide)
  case escaped h => exact h.percentDecoded_received

theorem Spells.percentDecoded_received (h : Spells reserved cs text) :
    percentDecoded (received text) = Utf8.encode cs := by
  induction h with
  | nil => rfl
  | cons hc h ih =>
    rw [received_append, hc.percentDecoded_received, ih]
    rfl

theorem component_encode (h : Spells reserved s.toList text) : component (Utf8.encode text) = s := by
  rw [component, ← received, h.percentDecoded_received, Utf8.decodeLossy_encode, String.ofList_toList]

theorem encode_pair (left right : List Char) :
    Utf8.encode (left ++ '=' :: right) = Utf8.encode left ++ '='.toUInt8 :: Utf8.encode right :=
  Utf8.encode_append left ('=' :: right)

theorem pair_encode (h : SpellsPair entry text) : pair (Utf8.encode text) = entry := by
  obtain @⟨name, value, left, right, hn, hv⟩ := h
  have hl : ∀ b ∈ Utf8.encode left, decide (b ≠ '='.toUInt8) = true := by
    intro b hb
    refine decide_eq_true ?_
    rintro rfl
    have hm : '=' ∉ left := hn.notMem (.tail _ (.head _)) (.tail _ (.head _))
    exact hm (Utf8.mem_of_toUInt8_mem_encode (by decide) hb)
  rw [pair, encode_pair, List.takeWhile_append_of_pos hl, List.dropWhile_append_of_pos hl]
  simp [component_encode hn, component_encode hv]

-- A pair is never an empty piece, and no piece is cut.
theorem SpellsPair.encode (h : SpellsPair entry text) :
    Utf8.encode text ≠ [] ∧ '&'.toUInt8 ∉ Utf8.encode text := by
  refine ⟨?_, fun hm => h.notMem (Utf8.mem_of_toUInt8_mem_encode (by decide) hm)⟩
  obtain ⟨_, _⟩ := h
  simp [encode_pair]

theorem encode_intercalate (pieces : List (List Char)) :
    Utf8.encode (['&'].intercalate pieces) = ['&'.toUInt8].intercalate (pieces.map Utf8.encode) := by
  match pieces with
  | []      => rfl
  | [piece] => simp
  | piece :: piece' :: pieces =>
    have ih := encode_intercalate (piece' :: pieces)
    rw [List.map_cons] at ih
    rw [List.intercalate_cons_cons, Utf8.encode_append, Utf8.encode_append, ih, List.map_cons,
      List.map_cons, List.intercalate_cons_cons]
    rfl

theorem encode_pieces (h : List.Forall₂ SpellsPair entries pieces) :
    ∀ bs ∈ pieces.map Utf8.encode, bs ≠ [] ∧ '&'.toUInt8 ∉ bs := by
  induction h with
  | nil         => simp
  | cons h _ ih => exact List.forall_mem_cons.mpr ⟨h.encode, ih⟩

theorem pair_pieces (h : List.Forall₂ SpellsPair entries pieces) :
    (pieces.map Utf8.encode).map pair = entries := by
  induction h with
  | nil         => rfl
  | cons h _ ih => rw [List.map_cons, List.map_cons, pair_encode h, ih]

theorem pairs_eq (h : SpellsQuery entries text) : pairs text = entries := by
  obtain ⟨pieces, h, rfl⟩ := h
  have hb := encode_pieces h
  rw [pairs, encode_intercalate]
  cases pieces
  case nil => cases h; rfl
  case cons piece pieces =>
    rw [List.splitOn_intercalate _ (fun bs hm => (hb bs hm).2) (by simp), List.filter_eq_self.mpr,
      pair_pieces h]
    intro bs hm
    simpa using (hb bs hm).1

-- A query string in which pairs are sent. A question mark in front is not part of what they are written as.
def Sends (query : String) (pairs : List (String × String)) : Prop :=
  ∃ text, SpellsQuery pairs text ∧
    (query.toList = '?' :: text ∨ query.toList = text ∧ text.head? ≠ some '?')

theorem Sends.decoded {query : String} (h : Sends query entries) : decoded query = entries := by
  obtain ⟨text, hs, ht | ⟨ht, hq⟩⟩ := h
  · rw [Form.decoded, ht]
    exact pairs_eq hs
  · rw [Form.decoded, ht]
    split
    case h_1 => exact absurd rfl hq
    case h_2 => exact pairs_eq hs

end Form

namespace Bag

-- One question mark in front is taken away, so that a text that begins with one of its own needs another.
theorem ofQuery_eq_ofPairs_of_spellsQuery {pairs : List (String × String)} {text : String}
    (h : Form.SpellsQuery pairs text.toList) (hq : text.toList.head? ≠ some '?') :
    ofQuery text = ofPairs pairs ∧ ofQuery ("?" ++ text) = ofPairs pairs := by
  have hp : Form.pairs text.toList = pairs := Form.pairs_eq h
  refine ⟨?_, ?_⟩
  · rw [ofQuery]
    split
    case h_1 ht => simp [ht] at hq
    case h_2    => rw [hp]
  · have ht : ("?" ++ text).toList = '?' :: text.toList := by simp
    rw [ofQuery, ht]
    exact congrArg ofPairs hp

theorem ofQuery_eq_ofPairs_of_spellsQuery_mixed :
    let pairs := [("é", " ="), ("", "")]
    let text := "%c3%A9=+=&="
    Form.SpellsQuery pairs text.toList ∧ ofQuery text = ofPairs pairs ∧
      ofQuery ("?" ++ text) = ofPairs pairs := by
  intro pairs text
  have he : Form.Escaped (String.utf8EncodeChar 'é') ['%', 'c', '3', '%', 'A', '9'] :=
    .cons 0xC3 .lower .lower (.cons 0xA9 .upper .upper .nil)
  have hn : Form.Spells ['='] "é".toList (['%', 'c', '3', '%', 'A', '9'] ++ []) :=
    .cons (.escaped he) .nil
  have hv : Form.Spells [] " =".toList (['+'] ++ (['='] ++ [])) :=
    .cons (.plus rfl) (.cons (.raw (by decide) (by decide)) .nil)
  have h : Form.SpellsQuery pairs text.toList :=
    ⟨_, .cons (.intro hn hv) (.cons (.intro .nil .nil) .nil), by decide⟩
  exact ⟨h, ofQuery_eq_ofPairs_of_spellsQuery h (by decide)⟩

end Bag

end RequestQuery
