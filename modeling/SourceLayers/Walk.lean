/-
The walk over a tree:

* `Trace`: the sites that a walk visits, the candidates it emits, and the enumerations known at its
  end, in the order of the walk;
* `walkBy`: works off a stack of sites, pushing what each step goes on to;
* `Reading.walk`: the walk by the rules, and `Reading.walkUpTo`, where calls can nest only so deep;
* `Reading.walkFrom`, `Reading.walkEach`: the same by recursion, a site before what lies below it.

A name of an enumeration is known from the site on that declares it.
-/
import SourceLayers.Rule.Dispatch

namespace SourceLayers

/-- The record of a walk. -/
structure Trace where
  /-- The visited sites. -/
  visited : List Site := []
  /-- The candidates, as emitted. -/
  emitted : List Candidate := []
  /-- The names of enumerations known at the end. -/
  enums : NameSet

/-- Works off a stack of sites. What the step at a site goes on to comes before the rest of the
stack. -/
def walkBy {ε : Type} (visit : NameSet → Site → Except ε Step) (enums : NameSet) :
    List Site → Except ε Trace
  | [] => .ok { enums }
  | site :: stack =>
    match visit enums site with
    | .error fault => .error fault
    | .ok step =>
      match walkBy visit (enums.insertAll step.declared) (site.descend step.fates ++ stack) with
      | .error fault => .error fault
      | .ok trace =>
        .ok
          { visited := site :: trace.visited
            emitted := step.emitted ++ trace.emitted
            enums := trace.enums }
termination_by stack => Site.sizeSites stack
decreasing_by
  have := site.sizeSites_descend_lt step.fates
  rw [Site.sizeSites_append]
  simp only [Site.sizeSites, List.map_cons, Node.sizeAll_cons] at this ⊢
  omega

namespace Reading

/-- The walk over a stack of sites by the rules. -/
def walk (reading : Reading) (enums : NameSet) (stack : List Site) : Except OffsetFault Trace :=
  walkBy reading.visit enums stack

/-- The walk where no more than `room` calls of a rule can nest. The walk itself does not nest. -/
def walkUpTo (reading : Reading) (room : Nat) (enums : NameSet) (stack : List Site) :
    Except WalkFault Trace :=
  walkBy (reading.visitUpTo room) enums stack

mutual
/-- Visits a site, and then what its step goes on to, one after the other. -/
def walkFrom (reading : Reading) (enums : NameSet) (site : Site) : Except OffsetFault Trace :=
  match reading.visit enums site with
  | .error fault => .error fault
  | .ok step =>
    match walkEach reading (enums.insertAll step.declared) (site.descend step.fates) with
    | .error fault => .error fault
    | .ok trace =>
      .ok
        { visited := site :: trace.visited
          emitted := step.emitted ++ trace.emitted
          enums := trace.enums }
termination_by (site.node.size, 0)
decreasing_by
  exact Prod.Lex.left _ _ (site.sizeSites_descend_lt step.fates)

/-- Walks from each site of a list, handing on the names of enumerations. -/
def walkEach (reading : Reading) (enums : NameSet) (sites : List Site) :
    Except OffsetFault Trace :=
  match sites with
  | [] => .ok { enums }
  | site :: rest =>
    match walkFrom reading enums site with
    | .error fault => .error fault
    | .ok first =>
      match walkEach reading first.enums rest with
      | .error fault => .error fault
      | .ok second =>
        .ok
          { visited := first.visited ++ second.visited
            emitted := first.emitted ++ second.emitted
            enums := second.enums }
termination_by (Site.sizeSites sites, sites.length + 1)
decreasing_by
  · simp only [Site.sizeSites, List.map_cons, Node.sizeAll_cons, Prod.lex_def]
    simp
    omega
  · simp only [Site.sizeSites, List.map_cons, Node.sizeAll_cons, Prod.lex_def]
    simp
    omega
end

end Reading

end SourceLayers
