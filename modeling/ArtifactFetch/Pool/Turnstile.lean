/-! # Turnstiles

A turnstile lets tasks through one pass at a time. A task that finds no free pass waits in line; a
pass that is released goes to the first in line, who holds it as granted until it walks through, and
only becomes free when nobody waits. A task that leaves gives a pass it was granted to the next in
line. -/

namespace ArtifactFetch

/-- The free passes, the tasks in line, first come first, and the tasks that were granted a pass and
have not walked through yet. -/
structure Turnstile where
  free : Nat
  queue : List Nat
  granted : List Nat
  deriving DecidableEq, Repr

namespace Turnstile

/-- A turnstile with `n` free passes and nobody there. -/
def withFree (n : Nat) : Turnstile := ⟨n, [], []⟩

/-- A task tries to walk through: with a pass it was granted, or with a free one. Otherwise it waits
in line. -/
def enter (t : Turnstile) (id : Nat) : Turnstile × Bool :=
  if id ∈ t.granted then ({ t with granted := t.granted.erase id }, true)
  else if id ∈ t.queue then (t, false)
  else if 0 < t.free then ({ t with free := t.free - 1 }, true)
  else ({ t with queue := t.queue ++ [id] }, false)

/-- Releases `n` passes, and names the tasks that were granted one. -/
def release (t : Turnstile) (n : Nat) : Turnstile × List Nat :=
  let served := t.queue.take n
  ({ free := t.free + (n - t.queue.length)
     queue := t.queue.drop n
     granted := t.granted ++ served }, served)

/-- A task goes away, and the tasks that are granted a pass by that are named. -/
def leave (t : Turnstile) (id : Nat) : Turnstile × List Nat :=
  if id ∈ t.granted then ({ t with granted := t.granted.erase id } : Turnstile).release 1
  else ({ t with queue := t.queue.erase id }, [])

/-- The passes that are free or granted. -/
def passes (t : Turnstile) : Nat := t.free + t.granted.length

theorem passes_release (t : Turnstile) (n : Nat) : (t.release n).1.passes = t.passes + n := by
  simp only [release, passes, List.length_append, List.length_take]
  omega

theorem release_snd (t : Turnstile) (n : Nat) : (t.release n).2 = t.queue.take n := rfl

end Turnstile

end ArtifactFetch
