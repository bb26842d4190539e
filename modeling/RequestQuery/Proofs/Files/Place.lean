import RequestQuery.Files.Tree
import RequestQuery.Proofs.Text.Split
import RequestQuery.Proofs.Traversal

namespace RequestQuery.FileTree

variable {tree tree' : FileTree} {here location location' : Location}
variable {names : List String} {path name : String} {bytes : List UInt8}

-- Where a name leads is told without a tree. A tree only decides whether it can be followed: each place on
-- the way has to be a directory.
def follow (location : Location) (name : String) : Location :=
  if name.isEmpty || name == "." then location
  else if name == ".." then location.dropLast
  else location ++ [name]

-- The places on the way of some names, its start and its end included.
def way (location : Location) : List String → List Location
  | []            => [location]
  | name :: names => location :: way (follow location name) names

def destination (here : Location) (path : String) : Location :=
  (steps path).foldl follow (origin here path)

def visited (here : Location) (path : String) : List Location :=
  way (origin here path) (steps path)

theorem checkDirectory_eq_ok_iff :
    tree.checkDirectory location = .ok () ↔ tree.node? location = some .directory := by
  rw [checkDirectory]
  split <;> simp_all

-- A step depends on the tree only in that it starts from a directory.
theorem step_of_checkDirectory (hp : tree'.checkDirectory location = .ok ())
    (hs : tree.step location name = .ok location') : tree'.step location name = .ok location' := by
  rw [step, bind_eq_ok_iff] at hs ⊢
  have ⟨_, _, hs⟩ := hs
  exact ⟨(), hp, hs⟩

theorem checkDirectory_of_step (h : tree.step location name = .ok location') :
    tree.checkDirectory location = .ok () := by
  rw [step, bind_eq_ok_iff] at h
  exact h.choose_spec.1

theorem follow_of_step (h : tree.step location name = .ok location') : follow location name = location' := by
  rw [step, bind_eq_ok_iff] at h
  have ⟨_, _, h⟩ := h
  rw [follow]
  split at h
  case isTrue hn =>
    rw [if_pos hn]
    exact Except.ok.inj h
  case isFalse hn =>
    rw [if_neg hn]
    split at h
    case isTrue hp =>
      rw [if_pos hp]
      exact Except.ok.inj h
    case isFalse hp =>
      rw [if_neg hp]
      split at h
      case isTrue  => cases h
      case isFalse => exact Except.ok.inj h

theorem foldlM_step_of_way (h : ∀ l ∈ way location names,
      tree.checkDirectory l = .ok () → tree'.checkDirectory l = .ok ())
    (hs : names.foldlM tree.step location = .ok location') :
    names.foldlM tree'.step location = .ok location' := by
  induction names generalizing location with
  | nil => exact hs
  | cons name names ih =>
    rw [List.foldlM_cons, bind_eq_ok_iff] at hs ⊢
    have ⟨next, hn, hs⟩ := hs
    have hp := h location List.mem_cons_self (checkDirectory_of_step hn)
    refine ⟨next, step_of_checkDirectory hp hn, ih (fun l hl => h l ?_) hs⟩
    exact List.mem_cons_of_mem _ (follow_of_step hn ▸ hl)

theorem foldl_follow_of_foldlM (h : names.foldlM tree.step location = .ok location') :
    names.foldl follow location = location' := by
  induction names generalizing location with
  | nil => exact Except.ok.inj h
  | cons name names ih =>
    rw [List.foldlM_cons, bind_eq_ok_iff] at h
    have ⟨next, hn, h⟩ := h
    rw [List.foldl_cons, follow_of_step hn, ih h]

theorem destination_of_resolve (h : tree.resolve path = .ok location) :
    destination tree.workingDirectory path = location := by
  rw [resolve, bind_eq_ok_iff] at h
  have ⟨_, _, h⟩ := h
  exact foldl_follow_of_foldlM h

theorem resolve_of_visited (hw : tree'.workingDirectory = tree.workingDirectory)
    (h : ∀ l ∈ visited tree.workingDirectory path,
      tree.node? l = some .directory → tree'.node? l = some .directory)
    (hr : tree.resolve path = .ok location) : tree'.resolve path = .ok location := by
  rw [resolve, bind_eq_ok_iff] at hr ⊢
  have ⟨_, hc, hr⟩ := hr
  rw [hw]
  refine ⟨(), hc, foldlM_step_of_way (fun l hl hd => ?_) hr⟩
  rw [checkDirectory_eq_ok_iff] at hd ⊢
  exact h l hl hd

theorem read_eq_ok_iff :
    tree.read path = .ok bytes ↔
      ∃ location, tree.resolve path = .ok location ∧ tree.node? location = some (.file bytes) := by
  rw [read, bind_eq_ok_iff]
  refine exists_congr fun location => and_congr_right fun _ => ?_
  split <;> simp_all [pure, Except.pure]

-- Reading depends on what is on the way and on the file at its end.
theorem read_of_visited (hw : tree'.workingDirectory = tree.workingDirectory)
    (hd : ∀ l ∈ visited tree.workingDirectory path,
      tree.node? l = some .directory → tree'.node? l = some .directory)
    (hf : tree.node? (destination tree.workingDirectory path) = some (.file bytes) →
      tree'.node? (destination tree.workingDirectory path) = some (.file bytes))
    (h : tree.read path = .ok bytes) : tree'.read path = .ok bytes := by
  obtain ⟨location, hr, hn⟩ := read_eq_ok_iff.mp h
  rw [destination_of_resolve hr] at hf
  exact read_eq_ok_iff.mpr ⟨location, resolve_of_visited hw hd hr, hf hn⟩

end RequestQuery.FileTree
