import ArtifactFetch.Coordinate

/-! # Listeners

A host may install one listener, which is told of every request, of every artifact that is already
available, and of every artifact that is added. A listener may panic. The slot it is installed in
records every event that it delivers, in the order of time, with the listener that received it and
the task it came from; without a listener an event goes to nobody. -/

namespace ArtifactFetch

/-- What a listener is told. -/
inductive Event where
  | requested (c : Coordinate)
  | available (c : Coordinate)
  | added (c : Coordinate) (file : Path)
  deriving DecidableEq, Repr

/-- A listener: its name, and the events in which it panics. -/
structure Listener where
  name : String
  panics : Event → Option Panic

/-- An event that a listener received. Events of the caller itself come from no task. -/
structure Delivery where
  listener : String
  event : Event
  task : Option Nat
  deriving DecidableEq, Repr

/-- The place of the one listener. -/
structure ListenerSlot where
  installed : Option Listener
  deliveries : List Delivery

namespace ListenerSlot

/-- A slot that has delivered nothing yet. -/
def holding (l : Option Listener) : ListenerSlot := ⟨l, []⟩

def isSet (s : ListenerSlot) : Bool := s.installed.isSome

/-- Installs a listener, or none. -/
def install (s : ListenerSlot) (l : Option Listener) : ListenerSlot := { s with installed := l }

/-- Delivers an event to the listener, if there is one, and says whether it panicked. -/
def deliver (s : ListenerSlot) (task : Option Nat) (e : Event) : ListenerSlot × Option Panic :=
  match s.installed with
  | some l => ({ s with deliveries := s.deliveries ++ [⟨l.name, e, task⟩] }, l.panics e)
  | none => (s, none)

/-- The events that the listener of a name received, in order. -/
def received (s : ListenerSlot) (name : String) : List Event :=
  s.deliveries.filterMap fun d => if d.listener = name then some d.event else none

/-- The slot as it is shown. -/
def describe (s : ListenerSlot) : String :=
  "ListenerSlot \x7b set: " ++ (if s.isSet then "true" else "false") ++ " \x7d"

@[simp] theorem deliver_of_none {s : ListenerSlot} (h : s.installed = none) (task : Option Nat)
    (e : Event) : s.deliver task e = (s, none) := by
  simp [deliver, h]

@[simp] theorem installed_deliver (s : ListenerSlot) (task : Option Nat) (e : Event) :
    (s.deliver task e).1.installed = s.installed := by
  unfold deliver
  split <;> simp [*]

end ListenerSlot

end ArtifactFetch
