
set_option autoImplicit false

namespace Switchboard

/-- The number of a handle, in the order of making. -/
abbrev StopId := Nat

/-- The stop handles (`StopHandle`) and the requests on them. A request on a handle counts for every
handle made from it, also for those made later, and for no other one. It is never taken back. -/
structure StopForest where
  /-- For each handle the handles that it was made from, the nearest first, after itself. -/
  ancestry : List (List StopId)
  /-- The handles on which a stop was requested. -/
  requested : List StopId

namespace StopForest

def empty : StopForest := ⟨[], []⟩

/-- A handle with the handles it was made from. -/
def lineage (forest : StopForest) (id : StopId) : List StopId := forest.ancestry.getD id []

def addRoot (forest : StopForest) : StopId × StopForest :=
  let id := forest.ancestry.length
  (id, { forest with ancestry := forest.ancestry ++ [[id]] })

def addChild (forest : StopForest) (parent : StopId) : StopId × StopForest :=
  let id := forest.ancestry.length
  (id, { forest with ancestry := forest.ancestry ++ [id :: forest.lineage parent] })

/-- Was a stop requested that counts for a handle? -/
def isRequested (forest : StopForest) (id : StopId) : Bool :=
  (forest.lineage id).any fun handle => forest.requested.contains handle

def request (forest : StopForest) (id : StopId) : StopForest :=
  { forest with requested := id :: forest.requested }

/-- The handles that a request on a handle counts for, the youngest first. -/
def reached (forest : StopForest) (id : StopId) : List StopId :=
  (List.range forest.ancestry.length).reverse.filter fun handle =>
    (forest.lineage handle).contains id

theorem lineage_addRoot (forest : StopForest) :
    forest.addRoot.2.lineage forest.addRoot.1 = [forest.addRoot.1] := by
  simp [addRoot, lineage]

theorem lineage_addChild (forest : StopForest) (parent : StopId) :
    (forest.addChild parent).2.lineage (forest.addChild parent).1 =
      (forest.addChild parent).1 :: forest.lineage parent := by
  simp [addChild, lineage]

theorem mem_lineage_addChild {forest : StopForest} {handle id : StopId}
    (member : handle ∈ forest.lineage id) (parent : StopId) :
    handle ∈ (forest.addChild parent).2.lineage id := by
  have known : id < forest.ancestry.length := by
    refine Nat.lt_of_not_le fun beyond => ?_
    rw [lineage, List.getD_eq_getElem?_getD, List.getElem?_eq_none beyond] at member
    cases member
  simp only [lineage, addChild, List.getD_eq_getElem?_getD] at member ⊢
  rwa [List.getElem?_append_left known]

theorem isRequested_of_mem {forest : StopForest} {handle id : StopId}
    (member : handle ∈ forest.lineage id) (asked : handle ∈ forest.requested) :
    forest.isRequested id = true :=
  List.any_eq_true.mpr ⟨handle, member, List.contains_iff_mem.mpr asked⟩

end StopForest
end Switchboard
