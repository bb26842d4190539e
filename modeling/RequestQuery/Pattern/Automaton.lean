import Std.Data.HashMap
import RequestQuery.Pattern.Simple
import RequestQuery.Text.ByteRange

namespace RequestQuery.Pattern.Automaton

open Text

-- Of the two automata for a pattern one reads a text forwards and one backwards. A pattern is too large if
-- either is.
inductive Direction
  | forwards
  | backwards
  deriving DecidableEq

structure Room where
  states : Nat := 0
  -- the bytes that the transitions of states take
  links  : Nat := 0

def Room.bytes (room : Room) : Nat :=
  32 * room.states + room.links

def limit : Nat :=
  10485760

-- Building comes to an end once there is no more room.
abbrev Building := StateT Room Option

-- Adds states, and the bytes of their transitions.
def add (states links : Nat) : Building Unit := fun room =>
  let room : Room := ⟨room.states + states, room.links + links⟩
  if limit < room.bytes then none else some ((), room)

def again : Nat → Building Unit → Building Unit
  | 0, _     => pure ()
  | n + 1, b => do
    b
    again n b

-- States to be found again by numbers that tell what they do. There are so many places, and a state takes
-- the place of an earlier one that has the same.
structure Table where
  places  : Nat
  entries : Std.HashMap Nat (List Nat × Nat) := {}

def Table.place (t : Table) (key : List Nat) : Nat :=
  let hash : UInt64 := key.foldl (fun h n => (h ^^^ n.toUInt64) * 0x100000001B3) 0xCBF29CE484222325
  hash.toNat % t.places

-- A set while it is built: the number of the next state, and how many transitions there are.
structure Draft where
  next  : Nat
  links : Nat := 0
  table : Table

-- The state that a key stands for, found again or new with so many transitions.
def Draft.state (key : List Nat) (links : Nat) : StateM Draft Nat := fun draft =>
  let place := draft.table.place key
  match draft.table.entries[place]?.filter (·.1 = key) with
  | some (_, state) => (state, draft)
  | none =>
    let table := { draft.table with entries := draft.table.entries.insert place (key, draft.next) }
    (draft.next, ⟨draft.next + 1, draft.links + links, table⟩)

-- The state in front of sequences in ascending order, each of so many bytes at most, which lead to a last
-- state. Sequences that begin alike have one transition.
def Draft.inFront (last : Nat) : Nat → List (List ByteRange) → StateM Draft Nat
  | 0, _ => pure last
  | length + 1, sequences => do
    let links ← (sequences.splitBy fun a b => a.head? = b.head?).mapM fun alike =>
      match alike with
      | [r] :: _      => pure [r.first.toNat, r.last.toNat, last]
      | (r :: _) :: _ => do
        let next ← Draft.inFront last length (alike.map List.tail)
        pure [r.first.toNat, r.last.toNat, next]
      | _             => pure []
    Draft.state links.flatten links.length

-- States for sequences that are read from their ends. Sequences that begin alike end in the same state.
def Draft.fromEnds (last : Nat) (sequences : List (List ByteRange)) : StateM Draft Unit :=
  sequences.forM fun sequence =>
    discard (sequence.foldlM (fun state r => Draft.state [state, r.first.toNat, r.last.toNat] 0) last)

-- The room of a set behind so many states. There is a state behind all sequences, and one in front of them
-- if they are read backwards.
def Direction.setRoom (d : Direction) (states : Nat) (sequences : List (List ByteRange)) : Room :=
  match d with
  | .forwards =>
    let draft : Draft := { next := states + 1, table := { places := 10000 } }
    let (_, draft) := Draft.inFront states 4 sequences draft
    ⟨draft.next - states, 8 * draft.links⟩
  | .backwards =>
    let draft : Draft := { next := states + 2, table := { places := 1000 } }
    let (_, draft) := Draft.fromEnds (states + 1) sequences draft
    ⟨draft.next - states, 4 * sequences.length⟩

-- Cuts words at those that end, each of which comes before what is behind it. Ends in a row count once if
-- nothing comes before them.
def cutAtEnds (words : List (List UInt8)) : List (List (List UInt8)) :=
  let (finished, current) := words.foldl cut ([], [])
  (current :: finished).reverse.map List.reverse
where
  cut (state : List (List (List UInt8)) × List (List UInt8)) (word : List UInt8) :
      List (List (List UInt8)) × List (List UInt8) :=
    let (finished, current) := state
    if !word.isEmpty then
      (finished, word :: current)
    else if current.isEmpty && !finished.isEmpty && finished.all List.isEmpty then
      state
    else
      (current :: finished, [])

-- The room of a tree of words, each of fewer bytes than told. A tree of nothing but ends takes none.
def tree : Nat → List (List UInt8) → Room
  | 0, _ => {}
  | length + 1, words =>
    if words.all List.isEmpty then
      {}
    else
      let cuts := cutAtEnds words
      let rooms := cuts.map fun words =>
        let firsts := (words.filterMap List.head?).eraseDups
        let below := firsts.map fun b => tree length ((words.filter (·.head? = some b)).map List.tail)
        let states := if firsts.isEmpty then 0 else 1
        let links := if firsts.length < 2 then 0 else 8 * firsts.length
        (⟨states + (below.map Room.states).sum, links + 4 * states + (below.map Room.links).sum⟩ : Room)
      ⟨1 + (rooms.map Room.states).sum, 4 * (cuts.length - 1) + (rooms.map Room.links).sum⟩

-- What is built for a pattern, in the order of building.
inductive Plan
  | word (bytes : List UInt8)
  | room (states links : Nat)
  | set (sequences : List (List ByteRange))
  | both (p q : Plan)
  -- two plans to choose from, the others, and how many there are in all
  | either (p q rest : Plan) (count : Nat)
  | repeated (p : Plan) (least : Nat) (most : Option Nat) (mayBeEmpty : Bool)
  | group (p : Plan)

namespace Plan

def word? : Plan → Option (List UInt8)
  | word bytes => some bytes
  | _          => none

-- Words to choose from make a tree, with a state behind it.
def choice (d : Direction) (plans : List Plan) : Plan :=
  match plans.mapM word?, plans with
  | _, []          => room 0 0
  | _, [p]         => p
  | some words, _  =>
    let words := if d = .forwards then words else words.map List.reverse
    let r := tree (words.flatten.length + 1) words
    room (r.states + 1) r.links
  | none, p :: q :: rest => either p q (rest.foldr both (room 0 0)) plans.length

def ofSet (s : CharSet) : Plan :=
  if s.ranges.all (·.2 < 0x80) then
    room 2 (8 * s.ranges.length)
  else
    set (s.ranges.flatMap fun (first, last) => ByteRange.sequences first last)

-- The plans of the alternatives of a pattern.
def alternatives (d : Direction) : Pattern → List Plan
  | .empty | .boundary _ => [room 1 0]
  | .text cs             => [word (Utf8.encode cs)]
  | .one s               => [ofSet s]
  | .both p q =>
    let p := choice d (alternatives d p)
    let q := choice d (alternatives d q)
    [if d = .forwards then both p q else both q p]
  | .either p q => alternatives d p ++ alternatives d q
  | .repeated p least most _ =>
    [repeated (choice d (alternatives d p)) least most (p.least?.all (· = 0))]
  | .group _ p => [group (choice d (alternatives d p))]

def ofPattern (d : Direction) (p : Pattern) : Plan :=
  choice d (alternatives d p)

-- Where there is a choice, a state links to what may come next; groups are kept only forwards.
def build (d : Direction) : Plan → Building Unit
  | word bytes        => add bytes.length 0
  | room states links => add states links
  | set sequences     => do
    let r := d.setRoom (← get).states sequences
    add r.states r.links
  | both p q => do
    p.build d
    q.build d
  | either p q rest count => do
    p.build d
    q.build d
    add 2 (4 * count)
    rest.build d
  | repeated p 0 none mayBeEmpty =>
    if mayBeEmpty then do
      p.build d
      add 3 16
    else do
      add 1 8
      p.build d
  | repeated p 0 (some 1) _ => do
    add 1 8
    p.build d
    add 1 0
  | repeated p least none _ => do
    again least (p.build d)
    add 1 8
  | repeated p least (some most) _ =>
    if least = most then
      again least (p.build d)
    else do
      if least = 0 then add 1 0 else again least (p.build d)
      add 1 0
      again (most - least) (do add 1 8; p.build d)
  | group p =>
    if d = .forwards then do
      add 1 0
      p.build d
      add 1 0
    else
      p.build d

end Plan

-- Whether matches can only begin where a text begins.
def startsText : Pattern → Bool
  | .boundary .textStart  => true
  | .both p q             => startsText p || (p.most? = some 0 && startsText q)
  | .either p q           => startsText p && startsText q
  | .repeated p least _ _ => 0 < least && startsText p
  | .group _ p            => startsText p
  | _                     => false

-- Whether matches can only end where a text ends.
def endsText : Pattern → Bool
  | .boundary .textEnd    => true
  | .both p q             => endsText q || (q.most? = some 0 && endsText p)
  | .either p q           => endsText p && endsText q
  | .repeated p least _ _ => 0 < least && endsText p
  | .group _ p            => endsText p
  | _                     => false

-- Anything may be read before a match, unless matches are tied to the end of the text where reading
-- begins.
def fits (d : Direction) (p : Pattern) : Bool :=
  let tied := match d with
    | .forwards  => startsText p
    | .backwards => endsText p
  let building : Building Unit := do
    if tied then add 1 0 else add 3 16
    (Plan.group (.ofPattern d p)).build d
    add 1 0
  (building {}).isSome

end Automaton

def isTooLarge (p : Pattern) : Bool :=
  !(Automaton.fits .forwards p && Automaton.fits .backwards p)

end RequestQuery.Pattern
