import ArtifactFetch.Proofs.Json.Passing
import Mathlib.Data.List.Nodup

/-! # Objects are read

Reading an object depends on its members alone, not on the blanks around them or on how their names
are spelled (`Schema.readAll_objectText`): each enters the draft or is passed over (`Enters`). If
the drafts that come up on the way are known for every set of keys that were read (`Tracks`), the
order of the members does not matter either, and what the object holds is decided by its last draft
(`Schema.decode_holds`). -/

namespace ArtifactFetch.Json

variable {Draft α : Type} {fields : List (Field Draft)}

/-! ### One member -/

/-- What a member makes of a draft: its field takes the value, or no field has its name. -/
inductive Enters (fields : List (Field Draft)) (d : Draft) : Member → Draft → Prop
  | known {name : String} {value : List Char} {d₁ : Draft} (f : Field Draft)
    (named : fields.find? (·.name == name) = some f) (unset : f.isSet d = false)
    (taken : Takes (f.read d) value d₁) : Enters fields d (name, value) d₁
  | unknown {name : String} {value : List Char}
    (unnamed : fields.find? (·.name == name) = none) (passed : IsValue value) :
    Enters fields d (name, value) d

/-- A member that gives `given` takes the draft `d` to `d'`, however its value is written. -/
def Sets (fields : List (Field Draft)) (given : Given) (d d' : Draft) : Prop :=
  ∃ f, fields.find? (·.name == given.1) = some f ∧ f.isSet d = false ∧
    ∀ v, Denotes given.2 v → Takes (f.read d) v d'

theorem Sets.enters {name : String} {datum : Datum} {value : List Char} {d d' : Draft}
    (h : Sets fields (name, datum) d d') (denotes : Denotes datum value) :
    Enters fields d (name, value) d' := by
  obtain ⟨f, named, unset, taken⟩ := h
  exact .known f named unset (taken value denotes)

/-- A field takes what its reader takes. -/
theorem sets_field {given : Given} {name : String} {get : Draft → Option α}
    {set : Draft → α → Draft} {read : Reader α} {a : α} {d d' : Draft}
    (named : fields.find? (·.name == given.1) = some (.of name get set read))
    (unset : (get d).isSome = false) (hread : ∀ {v}, Denotes given.2 v → Takes read v a)
    (hset : set d a = d') : Sets fields given d d' := by
  subst hset
  refine ⟨_, named, unset, fun v denotes lead rest hl hr => ?_⟩
  have taken := hread denotes lead rest hl hr
  exact congrArg (Except.map fun x => (set d x.1, x.2)) taken

theorem readMember_enters {d d₁ : Draft} {name : String} {value a b : List Char}
    (h : Enters fields d (name, value) d₁) (ha : AllBlank a) (hb : AllBlank b)
    {more : List Char} (ends : Ends more) :
    readMember fields name d (a ++ ':' :: (b ++ (value ++ more))) = .ok (d₁, more) := by
  rw [readMember]
  cases h with
  | known f named unset taken =>
    rw [named]
    dsimp only
    rw [unset, if_neg Bool.false_ne_true, readColon_append ha]
    exact taken b more hb ends
  | unknown unnamed passed =>
    rw [unnamed]
    dsimp only
    rw [readColon_append ha]
    dsimp only
    rw [skipValue_isValue passed hb ends]
    rfl

theorem nextKey_quote {text body : List Char} (h : skipBlanks text = '"' :: body) :
    nextKey true text = .ok (some body) ∧ nextKey false (',' :: text) = .ok (some body) := by
  constructor
  · rw [nextKey, h]
    rfl
  · rw [nextKey, skipBlanks_cons (by decide)]
    dsimp only
    rw [if_neg (by decide), if_neg Bool.false_ne_true, if_pos rfl, h]
    rfl

/-- Blanks in front of a member or of the end make no difference. -/
theorem readMembers_blanks {a : List Char} (ha : AllBlank a) (n : Nat) (first : Bool) (d : Draft)
    (text : List Char) :
    readMembers fields n first d (a ++ text) = readMembers fields n first d text := by
  cases n with
  | zero => rfl
  | succ n => rw [readMembers, readMembers, nextKey, nextKey, skipBlanks_append ha]

/-- **One member is read**, and reading goes on behind it. -/
theorem readMembers_member {d d₁ : Draft} {m : Member} {t more : List Char} (hm : MemberText m t)
    (h : Enters fields d m d₁) (ends : Ends more) :
    ∃ body, skipBlanks (t ++ more) = '"' :: body ∧
      ∀ {n first text}, nextKey first text = .ok (some body) →
        readMembers fields (n + 1) first d text = readMembers fields n false d₁ more := by
  obtain @⟨name, key, value, a, b, c, e, spelled, ha, hb, hc, he⟩ := hm
  refine ⟨key ++ '"' :: (b ++ ':' :: (c ++ (value ++ (e ++ more)))), ?_, ?_⟩
  · simp only [List.append_assoc, List.cons_append]
    exact skipBlanks_append_cons ha (by decide) _
  · intro n first text next
    have member := readMember_enters h hb hc (ends_append he ends)
    rw [readMembers, next]
    dsimp only
    rw [readString_spells spelled]
    dsimp only
    rw [member]
    exact readMembers_blanks he n false d₁ more

theorem readMembers_close {a : List Char} (ha : AllBlank a) (n : Nat) (first : Bool) (d : Draft)
    (rest : List Char) : readMembers fields (n + 1) first d (a ++ '}' :: rest) = .ok (d, rest) := by
  have brace : skipBlanks ('}' :: rest) = '}' :: rest := skipBlanks_cons (by decide) rest
  rw [readMembers_blanks ha, readMembers, nextKey, brace]
  rfl

/-! ### All members -/

/-- Members that enter one after the other. -/
inductive Collects (fields : List (Field Draft)) : Draft → List Member → Draft → Prop
  | nil {d : Draft} : Collects fields d [] d
  | cons {d d₁ d₂ : Draft} {m : Member} {ms : List Member} : Enters fields d m d₁ →
    Collects fields d₁ ms d₂ → Collects fields d (m :: ms) d₂

/-- **The members of an object are read** up to its end. -/
theorem readMembers_membersText {ms : List Member} {t : List Char} (h : MembersText ms t)
    {d d' : Draft} (hc : Collects fields d ms d') {n : Nat} (hn : ms.length < n)
    (rest : List Char) :
    ∃ body, skipBlanks (t ++ '}' :: rest) = '"' :: body ∧
      ∀ {first text}, nextKey first text = .ok (some body) →
        readMembers fields n first d text = .ok (d', rest) := by
  induction h generalizing d n with
  | last hm =>
    obtain _ | ⟨enters, ⟨⟩⟩ := hc
    obtain ⟨n, rfl⟩ : ∃ k, n = k + 2 := ⟨n - 2, by simp only [List.length_singleton] at hn; omega⟩
    obtain ⟨body, starts, read⟩ := readMembers_member hm enters (Frame.ends_close .object rest)
    refine ⟨body, starts, fun next => ?_⟩
    rw [read next]
    exact readMembers_close allBlank_nil n false _ rest
  | @more m ms t u hm _ ih =>
    obtain _ | ⟨enters, later⟩ := hc
    obtain ⟨n, rfl⟩ : ∃ k, n = k + 1 := ⟨n - 1, by omega⟩
    obtain ⟨inner, inner_starts, inner_read⟩ := ih later (by simpa using hn)
    obtain ⟨body, starts, read⟩ := readMembers_member hm enters (ends_comma (u ++ '}' :: rest))
    refine ⟨body, by rwa [List.append_assoc], fun next => ?_⟩
    rw [read next]
    exact inner_read (nextKey_quote inner_starts).2

theorem MembersText.length_le {ms : List Member} {t : List Char} (h : MembersText ms t) :
    ms.length ≤ t.length := by
  have some_char : ∀ {m t}, MemberText m t → 0 < t.length := by
    rintro m t ⟨_, _, _, _, _⟩
    simp only [List.length_append, List.length_cons]
    omega
  induction h with
  | last hm => exact some_char hm
  | more _ _ ih =>
    simp only [List.length_cons, List.length_append]
    omega

theorem skipBlanks_allBlank {a : List Char} (ha : AllBlank a) : skipBlanks a = [] := by
  have nothing := skipBlanks_append ha []
  rwa [List.append_nil] at nothing

/-- **A record is read** from an object whose members lead to its draft. -/
theorem Schema.readAll_objectText {schema : Schema Draft α} {ms : List Member} {t : List Char}
    {d : Draft} {x : α} (h : ObjectText ms t) (hc : Collects schema.fields schema.blank ms d)
    (hx : schema.ofObject d = .ok x) : schema.readAll t = .ok x := by
  have whole : ∀ {lead inside tail : List Char}, AllBlank lead → AllBlank tail →
      readMembers schema.fields ((inside ++ '}' :: tail).length + 1) true schema.blank
        (inside ++ '}' :: tail) = .ok (d, tail) →
      schema.readAll (lead ++ '{' :: (inside ++ '}' :: tail)) = .ok x := by
    intro lead inside tail hl ht read
    rw [Schema.readAll, Schema.read, skipBlanks_append_cons hl (by decide)]
    dsimp only
    rw [if_pos rfl, read]
    dsimp only
    rw [hx, complete]
    dsimp only
    rw [skipBlanks_allBlank ht]
  cases h with
  | empty ha hb hd =>
    obtain ⟨⟩ := hc
    exact whole ha hd (readMembers_close hb _ true _ _)
  | @members _ a t b ha ht hb =>
    have enough : ms.length < (t ++ '}' :: b).length + 1 := by
      have := ht.length_le
      rw [List.length_append]
      omega
    obtain ⟨body, starts, read⟩ := readMembers_membersText ht hc enough b
    exact whole ha hb (read (nextKey_quote starts).1)

/-! ### Data in any order -/

section Tracks
variable {Key : Type} {given : Key → Given} {draft : List Key → Draft}

/-- `draft keys` is the draft in which the data that are given under these keys are set, and
nothing else is. -/
def Tracks (fields : List (Field Draft)) (given : Key → Given) (draft : List Key → Draft) : Prop :=
  ∀ key keys, key ∉ keys → Sets fields (given key) (draft keys) (draft (key :: keys))

/-- What stands in the draft for a key: its value if the key is among those that were read. -/
def among [DecidableEq Key] (keys : List Key) (key : Key) (a : α) : Option α :=
  if key ∈ keys then some a else none

theorem isSome_among [DecidableEq Key] {key : Key} {keys : List Key} (h : key ∉ keys) (a : α) :
    (among keys key a).isSome = false := by
  rw [among, if_neg h]
  rfl

theorem getD_among [DecidableEq Key] (keys : List Key) (key : Key) (a b : α) :
    (among keys key a).getD b = if key ∈ keys then a else b := by
  unfold among
  split
  · rfl
  · rfl

theorem find?_name_eq_none {name : String} (h : name ∉ fields.map (·.name)) :
    fields.find? (·.name == name) = none := by
  refine List.find?_eq_none.mpr fun f hf same => h ?_
  exact List.mem_map.mpr ⟨f, hf, beq_iff_eq.mp same⟩

/-- Members that give data under different keys enter one after the other. -/
theorem Gives.collects {ms : List Member} {data : List Given}
    (h : Gives (fields.map (·.name)) ms data) (tracks : Tracks fields given draft)
    {keys read : List Key} (hdata : data = keys.map given) (nodup : (keys ++ read).Nodup) :
    Collects fields (draft read) ms (draft (keys.reverse ++ read)) := by
  induction h generalizing keys read with
  | nil =>
    obtain rfl : keys = [] := List.map_eq_nil_iff.mp hdata.symm
    exact .nil
  | known _ denotes _ ih =>
    obtain ⟨key, keys, rfl, hkey, rfl⟩ := List.map_eq_cons_iff.mp hdata.symm
    rw [List.cons_append, List.nodup_cons] at nodup
    obtain ⟨fresh, nodup⟩ := nodup
    have unread : key ∉ read := fun hn => fresh (List.mem_append_right _ hn)
    have sets := tracks key read unread
    rw [hkey] at sets
    refine .cons (sets.enters denotes) ?_
    have later := ih rfl (List.nodup_middle.mpr (List.nodup_cons.mpr ⟨fresh, nodup⟩))
    rwa [List.reverse_cons, List.append_assoc]
  | unknown unnamed passed _ ih =>
    exact .cons (.unknown (find?_name_eq_none unnamed) passed) (ih hdata nodup)

/-- **What an object holds** does not depend on the order of its members, on blanks, on spellings
or on members of unknown names. -/
theorem Schema.decode_holds {schema : Schema Draft α} {keys : List Key} {text : String} {x : α}
    (tracks : Tracks schema.fields given draft) (start : draft [] = schema.blank)
    (holds : Holds (schema.fields.map (·.name)) (keys.map given) text) (nodup : keys.Nodup)
    (hx : schema.ofObject (draft keys.reverse) = .ok x) : schema.decode text = .ok x := by
  obtain ⟨ms, object, gives⟩ := holds
  have collects := gives.collects tracks rfl (show (keys ++ []).Nodup by rwa [List.append_nil])
  rw [start, List.append_nil] at collects
  rw [Schema.decode, Schema.readAll_objectText object collects hx]

end Tracks

end ArtifactFetch.Json
