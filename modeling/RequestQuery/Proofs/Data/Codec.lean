import RequestQuery.Data.Members
import RequestQuery.Proofs.Json.Writer

namespace RequestQuery

open Json (Writable)

structure Codec (α : Type) where
  write : α → Data
  read? : Data → Option α

namespace Codec

variable {α : Type} {codec : Codec α} {text text' : String}

-- One of some named cases, written as its name.
def ofCases (cases : List α) (name : α → String) : Codec α where
  write a := .text (name a)
  read?   := Data.case? cases name

def json (codec : Codec α) (a : α) : String :=
  Json.compact (codec.write a)

def ofJson? (codec : Codec α) (text : String) : Option α :=
  Json.ofText? text >>= codec.read?

-- The text of the value that is read from a text.
def rewrite? (codec : Codec α) (text : String) : Option String :=
  codec.json <$> codec.ofJson? text

structure Lossless (codec : Codec α) : Prop where
  writable    : ∀ a, Writable (codec.write a)
  read?_write : ∀ a, codec.read? (codec.write a) = some a

-- The cases are told by their names.
theorem lossless_ofCases {cases : List α} {name : α → String}
    (h : ∀ a, cases.find? (name · == name a) = some a) : (ofCases cases name).Lossless where
  writable a    := .text (name a)
  read?_write a := h a

namespace Lossless

theorem ofJson?_json (h : codec.Lossless) (a : α) : codec.ofJson? (codec.json a) = some a := by
  have ht : Json.ofText? (codec.json a) = some (codec.write a) := Json.ofText?_compact (h.writable a)
  simp [ofJson?, ht, h.read?_write]

theorem rewrite?_of_rewrite? (h : codec.Lossless) (ht : codec.rewrite? text = some text') :
    codec.rewrite? text' = some text' := by
  have ⟨a, _, ha⟩ := Option.map_eq_some_iff.mp ht
  subst ha
  simp [rewrite?, h.ofJson?_json]

end Lossless

end Codec

end RequestQuery
