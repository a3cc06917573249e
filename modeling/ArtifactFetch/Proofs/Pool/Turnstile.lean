import ArtifactFetch.Pool.Turnstile
import Mathlib.Data.List.Nodup

/-! # What turnstiles keep

A pass is free, granted or with a task that has walked through, and none is made or lost by tasks
that come and go (`passes_enter`, `passes_leave`). A task stands at a turnstile once at most, and
nobody waits in line while a pass is free (`Sound`). -/

namespace ArtifactFetch.Turnstile

/-- A task stands at the turnstile. -/
def Holds (t : Turnstile) (i : Nat) : Prop := i ∈ t.queue ∨ i ∈ t.granted

/-- **Order at a turnstile**: no task stands there twice, and nobody waits for a free pass. -/
structure Sound (t : Turnstile) : Prop where
  nodup : (t.queue ++ t.granted).Nodup
  full : t.queue ≠ [] → t.free = 0

variable {t t' : Turnstile} {id i : Nat}

theorem sound_withFree (n : Nat) : (withFree n).Sound := ⟨List.nodup_nil, fun h => absurd rfl h⟩

theorem holds_iff : t.Holds i ↔ i ∈ t.queue ++ t.granted := List.mem_append.symm

/-! ### Walking through -/

theorem Sound.granted_nodup (h : t.Sound) : t.granted.Nodup := (List.nodup_append'.mp h.nodup).2.1

/-- A task walks through with a pass it was granted, or with a free one. -/
theorem enter_true (h : t.enter id = (t', true)) :
    id ∈ t.granted ∧ t' = { t with granted := t.granted.erase id } ∨
      id ∉ t.granted ∧ id ∉ t.queue ∧ 0 < t.free ∧ t' = { t with free := t.free - 1 } := by
  unfold enter at h
  split_ifs at h with hg hq hf
  · exact .inl ⟨hg, (Prod.mk.inj h).1.symm⟩
  · simp at h
  · exact .inr ⟨hg, hq, hf, (Prod.mk.inj h).1.symm⟩
  · simp at h

/-- A task that does not get through waits in line, where it may stand already. -/
theorem enter_false (h : t.enter id = (t', false)) :
    id ∉ t.granted ∧ (id ∈ t.queue ∧ t' = t ∨
      id ∉ t.queue ∧ t.free = 0 ∧ t' = { t with queue := t.queue ++ [id] }) := by
  unfold enter at h
  split_ifs at h with hg hq hf
  · simp at h
  · exact ⟨hg, .inl ⟨hq, (Prod.mk.inj h).1.symm⟩⟩
  · simp at h
  · exact ⟨hg, .inr ⟨hq, Nat.eq_zero_of_not_pos hf, (Prod.mk.inj h).1.symm⟩⟩

theorem passes_enter_true (h : t.enter id = (t', true)) : t'.passes + 1 = t.passes := by
  obtain ⟨hg, rfl⟩ | ⟨-, -, hf, rfl⟩ := enter_true h
  · have hpos := List.length_pos_of_mem hg
    simp only [passes, List.length_erase_of_mem hg]
    omega
  · simp only [passes]
    omega

theorem passes_enter_false (h : t.enter id = (t', false)) : t'.passes = t.passes := by
  obtain ⟨-, ⟨-, rfl⟩ | ⟨-, -, rfl⟩⟩ := enter_false h <;> rfl

/-- A task that has walked through stands there no more, and the others stay. -/
theorem holds_enter_true (hs : t.Sound) (h : t.enter id = (t', true)) :
    t'.Holds i ↔ t.Holds i ∧ i ≠ id := by
  obtain ⟨hg, rfl⟩ | ⟨hg, hq, -, rfl⟩ := enter_true h
  · have hn : id ∉ t.queue := fun hq => (List.nodup_append'.mp hs.nodup).2.2 hq hg
    have hne : i ∈ t.queue → i ≠ id := by
      rintro hi rfl
      exact hn hi
    simp only [Holds, hs.granted_nodup.mem_erase_iff]
    tauto
  · have hne : t.Holds i → i ≠ id := by
      rintro hi rfl
      exact hi.elim hq hg
    exact ⟨fun hi => ⟨hi, hne hi⟩, fun hi => hi.1⟩

theorem Sound.enter_true (hs : t.Sound) (h : t.enter id = (t', true)) : t'.Sound := by
  obtain ⟨hg, rfl⟩ | ⟨-, -, hf, rfl⟩ := Turnstile.enter_true h
  · exact ⟨hs.nodup.sublist (List.Sublist.append_left List.erase_sublist _), hs.full⟩
  · exact ⟨hs.nodup, fun hq => absurd (hs.full hq) (Nat.pos_iff_ne_zero.mp hf)⟩

theorem holds_enter_false (h : t.enter id = (t', false)) : t'.Holds i ↔ t.Holds i ∨ i = id := by
  obtain ⟨-, ⟨hq, rfl⟩ | ⟨-, -, rfl⟩⟩ := enter_false h
  · refine ⟨.inl, fun hi => hi.elim (fun h => h) ?_⟩
    rintro rfl
    exact .inl hq
  · simp only [Holds, List.mem_append, List.mem_singleton]
    tauto

theorem Sound.enter_false (hs : t.Sound) (h : t.enter id = (t', false)) : t'.Sound := by
  obtain ⟨hg, ⟨-, rfl⟩ | ⟨hq, hf, rfl⟩⟩ := Turnstile.enter_false h
  · exact hs
  · refine ⟨?_, fun _ => hf⟩
    have hperm : (t.queue ++ [id] ++ t.granted).Perm (id :: (t.queue ++ t.granted)) := by
      rw [List.append_assoc]
      exact List.perm_middle
    rw [hperm.nodup_iff, List.nodup_cons]
    exact ⟨fun hm => (List.mem_append.mp hm).elim hq hg, hs.nodup⟩

/-! ### Passes that are released -/

theorem perm_release (t : Turnstile) (n : Nat) :
    ((t.release n).1.queue ++ (t.release n).1.granted).Perm (t.queue ++ t.granted) := by
  have hline : (t.queue.drop n ++ t.queue.take n).Perm t.queue := by
    have h : (t.queue.drop n ++ t.queue.take n).Perm (t.queue.take n ++ t.queue.drop n) :=
      List.perm_append_comm
    rwa [List.take_append_drop] at h
  have hcomm : (t.granted ++ t.queue.take n).Perm (t.queue.take n ++ t.granted) :=
    List.perm_append_comm
  have hall := hcomm.append_left (t.queue.drop n)
  rw [← List.append_assoc (t.queue.drop n) (t.queue.take n)] at hall
  exact hall.trans (hline.append_right _)

theorem Sound.release (hs : t.Sound) (n : Nat) : (t.release n).1.Sound := by
  refine ⟨(perm_release t n).nodup_iff.mpr hs.nodup, fun hq => ?_⟩
  -- whoever is still in line was there before, behind as many as there were passes
  have hlen : n < t.queue.length := by
    by_contra hle
    exact hq (List.drop_eq_nil_of_le (Nat.le_of_not_lt hle))
  have hfree := hs.full (List.ne_nil_of_length_pos (Nat.zero_lt_of_lt hlen))
  show t.free + (n - t.queue.length) = 0
  omega

theorem holds_release (t : Turnstile) (n : Nat) : (t.release n).1.Holds i ↔ t.Holds i := by
  rw [holds_iff, holds_iff]
  exact (perm_release t n).mem_iff

theorem mem_granted_release {n : Nat} :
    i ∈ (t.release n).1.granted ↔ i ∈ t.granted ∨ i ∈ (t.release n).2 := List.mem_append

theorem mem_queue_release {n : Nat} (h : i ∈ t.queue) :
    i ∈ (t.release n).1.queue ∨ i ∈ (t.release n).2 := by
  rw [← List.take_append_drop n t.queue, List.mem_append] at h
  exact h.symm

/-! ### Going away -/

theorem leave_of_granted (h : id ∈ t.granted) :
    t.leave id = ({ t with granted := t.granted.erase id } : Turnstile).release 1 := if_pos h

theorem leave_of_not_granted (h : id ∉ t.granted) :
    t.leave id = ({ t with queue := t.queue.erase id }, []) := if_neg h

theorem passes_leave (t : Turnstile) (id : Nat) : (t.leave id).1.passes = t.passes := by
  by_cases hg : id ∈ t.granted
  · have hpos := List.length_pos_of_mem hg
    rw [leave_of_granted hg, passes_release]
    simp only [passes, List.length_erase_of_mem hg]
    omega
  · rw [leave_of_not_granted hg]
    rfl

theorem Sound.leave (hs : t.Sound) (id : Nat) : (t.leave id).1.Sound := by
  by_cases hg : id ∈ t.granted
  · rw [leave_of_granted hg]
    have hsub : (t.queue ++ t.granted.erase id).Nodup :=
      hs.nodup.sublist (List.Sublist.append_left List.erase_sublist _)
    exact Sound.release (t := { t with granted := t.granted.erase id }) ⟨hsub, hs.full⟩ 1
  · rw [leave_of_not_granted hg]
    refine ⟨hs.nodup.sublist (List.erase_sublist.append_right _), fun hq => hs.full ?_⟩
    rintro hnil
    rw [hnil] at hq
    exact hq rfl

theorem holds_leave (hs : t.Sound) (id : Nat) : (t.leave id).1.Holds i ↔ t.Holds i ∧ i ≠ id := by
  obtain ⟨hq, hg, hdisj⟩ := List.nodup_append'.mp hs.nodup
  by_cases hid : id ∈ t.granted
  · rw [leave_of_granted hid, holds_release]
    have hne : i ∈ t.queue → i ≠ id := by
      rintro hi rfl
      exact hdisj hi hid
    simp only [Holds, hg.mem_erase_iff]
    tauto
  · rw [leave_of_not_granted hid]
    have hne : i ∈ t.granted → i ≠ id := by
      rintro hi rfl
      exact hid hi
    simp only [Holds, hq.mem_erase_iff]
    tauto

/-- Only a task that was granted a pass serves others when it goes away, and these were in line. -/
theorem mem_of_leave (h : i ∈ (t.leave id).2) : id ∈ t.granted ∧ i ∈ t.queue := by
  by_cases hg : id ∈ t.granted
  · rw [leave_of_granted hg] at h
    exact ⟨hg, List.mem_of_mem_take h⟩
  · rw [leave_of_not_granted hg] at h
    exact absurd h List.not_mem_nil

theorem mem_granted_leave (h : i ∈ (t.leave id).1.granted) :
    i ∈ t.granted ∨ i ∈ (t.leave id).2 := by
  by_cases hg : id ∈ t.granted
  · rw [leave_of_granted hg] at h ⊢
    exact (mem_granted_release.mp h).imp_left List.mem_of_mem_erase
  · rw [leave_of_not_granted hg] at h
    exact .inl h

theorem mem_queue_leave (h : i ∈ t.queue) (hne : i ≠ id) :
    i ∈ (t.leave id).1.queue ∨ i ∈ (t.leave id).2 := by
  by_cases hg : id ∈ t.granted
  · rw [leave_of_granted hg]
    exact mem_queue_release (t := { t with granted := t.granted.erase id }) h
  · rw [leave_of_not_granted hg]
    exact .inl ((List.mem_erase_of_ne hne).mpr h)

theorem length_leave (t : Turnstile) (id : Nat) : (t.leave id).2.length ≤ 1 := by
  by_cases hg : id ∈ t.granted
  · rw [leave_of_granted hg, release_snd]
    exact List.length_take_le _ _
  · rw [leave_of_not_granted hg]
    exact Nat.zero_le _

end ArtifactFetch.Turnstile
