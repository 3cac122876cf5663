import GenericTypes.Walk

namespace GenericTypes

structure Sink (α : Type) where
  items : Array α

variable {α : Type}

namespace Sink

def empty : Sink α := ⟨#[]⟩

def push (sink : Sink α) (a : α) : Sink α := ⟨sink.items.push a⟩

def size (sink : Sink α) : Nat := sink.items.size

def isEmpty (sink : Sink α) : Bool := sink.items.isEmpty

def toList (sink : Sink α) : List α := sink.items.toList

def pushNext : Visitor (Sink α) α := fun sink a => (sink.push a, .proceed)

/-- Pushes every element of a walk, and says how the walk ended. -/
def feed (sink : Sink α) (walk : Walk α) : Sink α × Outcome := walk.run pushNext sink

def ofWalk (walk : Walk α) : Sink α := (empty.feed walk).1

@[simp]
theorem toList_push (sink : Sink α) (a : α) : (sink.push a).toList = sink.toList ++ [a] := by
  simp [push, toList]

theorem length_toList (sink : Sink α) : sink.toList.length = sink.size := by
  simp [toList, size]

end Sink

/-- A walk that feeds a sink: what it has yet to push, and whether it is still running. -/
structure Party (α : Type) where
  pending : List α
  alive : Bool

inductive Turn where
  | push (party : Nat)
  | death (party : Nat)
deriving DecidableEq, Repr

structure Feeding (α : Type) where
  sink : Sink α
  parties : List (Party α)

namespace Feeding

def start (sink : Sink α) (walks : List (Walk α)) : Feeding α :=
  ⟨sink, walks.map fun walk => ⟨walk.toList, true⟩⟩

/-- A turn of a dead, finished or absent party changes nothing. -/
def take (feeding : Feeding α) : Turn → Feeding α
  | .push i =>
    match feeding.parties[i]? with
    | some ⟨a :: rest, true⟩ => ⟨feeding.sink.push a, feeding.parties.set i ⟨rest, true⟩⟩
    | _ => feeding
  | .death i => { feeding with parties := feeding.parties.modify i ({ · with alive := false }) }

def run (feeding : Feeding α) (turns : List Turn) : Feeding α :=
  turns.foldl take feeding

def rotation (feeding : Feeding α) : List Turn :=
  let rounds := (feeding.parties.map (·.pending.length)).foldl max 0
  (List.replicate rounds ((List.range feeding.parties.length).map Turn.push)).flatten

end Feeding

def Sink.feedAll (sink : Sink α) (walks : List (Walk α)) : Sink α :=
  let feeding := Feeding.start sink walks
  (feeding.run feeding.rotation).sink

end GenericTypes
