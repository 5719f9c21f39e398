import BlizzLikeCore.Loot.Rolls
import BlizzLikeCore.Lib.Transition
import Mathlib.Data.List.Count

/-!
# The tallies of rolls

The counters of a roll should be the numbers of its votes, and a roll in which everybody has
voted should be over.  The rolls of a group, under the votes, departures and countdowns of any
order, keep to it exactly as long as no voter votes again while others are to vote, nobody leaves
a roll in which all others have voted, and no roll of `GroupLoot` starts with nobody in it
(`tallies_kept`): `CountRollVote` adds every vote to the counters, also one that replaces another,
and `_removeRolls` asks it to count a roll for a player it has just taken out (`tallies_broken`).
-/

namespace BlizzLike

/-- Members who may take part in a roll; the largest raid has 40. -/
structure Rollers where
  guids : List Nat
  nodup : guids.Nodup
  size : guids.length < 256

/-- The rolls of a group; `resolved` is a ledger of the rolls that `CountTheRoll` was called for. -/
structure RollTable where
  rollId : Rolls := []
  nextItemGuid : Nat := 1
  resolved : List Roll := []

/-- What happens to the rolls of a group. -/
inductive RollEvent where
  | startRoll (needBeforeGreed : Bool) (itemid itemSlot fill : Nat) (rollers : Rollers)
  | vote (pl guid choice : Nat) (isValid itemsEmpty : Roll → Bool)
  | removeMember (pl : Nat) (isValid itemsEmpty : Roll → Bool)
  | disconnect (pl : Nat)
  | endRoll
  | disband

namespace RollTable

variable (s : RollTable)

/-- The item of `GroupLoot` and `NeedBeforeGreed` that is rolled for; the latter drops the roll
again when nobody can take part. -/
def startRoll (needBeforeGreed : Bool) (itemid itemSlot fill : Nat) (rollers : List Nat) : RollTable :=
  let r := Roll.start s.nextItemGuid itemid itemSlot fill rollers
  { s with
    nextItemGuid := s.nextItemGuid + 1
    rollId := if needBeforeGreed = true ∧ r.totalPlayersRolling = 0 then s.rollId else s.rollId ++ [r] }

/-- `CountTheRoll`, as far as the rolls go. -/
def countTheRoll (r : Roll) : RollTable :=
  { s with rollId := Rolls.erase s.rollId r, resolved := s.resolved ++ [r] }

def countRollVote (pl guid choice : Nat) (isValid itemsEmpty : Roll → Bool) : RollTable :=
  match Rolls.castVote s.rollId isValid itemsEmpty pl guid choice with
  | (rolls, none) => { s with rollId := rolls }
  | (rolls, some r) => { s with rollId := rolls }.countTheRoll r

def removeRolls (pl : Nat) (isValid itemsEmpty : Roll → Bool) : RollTable :=
  let (rolls, counted) := Rolls.removeRolls s.rollId isValid itemsEmpty pl
  { s with rollId := rolls, resolved := s.resolved ++ counted }

def endRoll : RollTable := s.rollId.foldl countTheRoll s

/-- A disconnect leaves a group alone. -/
def step (s : RollTable) : RollEvent → RollTable
  | .startRoll needBeforeGreed itemid itemSlot fill rollers =>
    s.startRoll needBeforeGreed itemid itemSlot fill rollers.guids
  | .vote pl guid choice isValid itemsEmpty => s.countRollVote pl guid choice isValid itemsEmpty
  | .removeMember pl isValid itemsEmpty => s.removeRolls pl isValid itemsEmpty
  | .disconnect _ => s
  | .endRoll => s.endRoll
  | .disband => { s with rollId := [] }

end RollTable

namespace Roll

/-- How many players have voted so. -/
def count (r : Roll) (vote : RollVote) : Nat := r.playerVote.countP fun v => v.2 = vote

/-- The players who may vote. -/
def eligible (r : Roll) : Nat := r.playerVote.countP fun v => v.2 ≠ .notValid

/-- The counters are the numbers of votes. -/
structure Tallied (r : Roll) : Prop where
  rolling : r.totalPlayersRolling = r.eligible
  need : r.totalNeed = r.count .need
  greed : r.totalGreed = r.count .greed
  pass : r.totalPass = r.count .pass

/-- Somebody is still to vote. -/
def Pending (r : Roll) : Prop := ∃ v ∈ r.playerVote, v.2 = .notEmitedYet

/-- What is always so: one vote a player, and few enough for the counters. -/
structure Regular (r : Roll) : Prop where
  keys : (r.playerVote.map Prod.fst).Nodup
  valid : ∀ v ∈ r.playerVote, v.2 ≠ .notValid
  size : r.playerVote.length < 256

end Roll

namespace RollTable

/-- Every roll is tallied and has a vote outstanding. -/
def InStep (s : RollTable) : Prop := ∀ r ∈ s.rollId, r.Tallied ∧ r.Pending

/-- **The law** for one event: the rolls are in step after it, and a roll that is not there any
more was counted, unless the group is gone. -/
structure Lawful (s : RollTable) (a : RollEvent) : Prop where
  inStep : (step s a).InStep
  counted : a = .disband ∨ ∀ r ∈ s.rollId, (∃ q ∈ (step s a).rollId, q.itemGUID = r.itemGUID) ∨
    ∃ q ∈ (step s a).resolved, q.itemGUID = r.itemGUID

structure Regular (s : RollTable) : Prop where
  rolls : ∀ r ∈ s.rollId, r.Regular
  guids : (s.rollId.map Roll.itemGUID).Nodup
  fresh : ∀ r ∈ s.rollId, r.itemGUID < s.nextItemGuid

/-- An event that does not meet one of the missing checks: a vote that changes a roll is the
voter's first, or the last one outstanding is all that is missing; somebody else is still to vote
in the rolls a member leaves; `GroupLoot` starts no roll for nobody. -/
def Heedful (s : RollTable) : RollEvent → Prop
  | .startRoll needBeforeGreed _ _ _ rollers => needBeforeGreed = true ∨ rollers.guids ≠ []
  | .vote pl guid choice isValid itemsEmpty => ∀ r ∈ s.rollId, r.itemGUID = guid → isValid r = true →
      itemsEmpty r = false → choice ≤ 2 → ∀ old, r.voteOf pl = some old →
        old = .notEmitedYet ∨ r.count .notEmitedYet = 1
  | .removeMember pl _ _ => ∀ r ∈ s.rollId, r.voteOf pl ≠ none →
      ∃ v ∈ r.playerVote, v.1 ≠ pl ∧ v.2 = .notEmitedYet
  | _ => True

end RollTable

/-! ## One roll -/

namespace Roll

variable {r : Roll} {pl : Nat} {old : RollVote}

theorem mem_of_voteOf (h : r.voteOf pl = some old) : (pl, old) ∈ r.playerVote := by
  unfold voteOf at h
  obtain ⟨⟨p, v⟩, hv, rfl⟩ := Option.map_eq_some_iff.1 h
  have hp := List.find?_some hv
  simp only [beq_iff_eq] at hp
  exact hp ▸ List.mem_of_find?_eq_some hv

theorem countP_setVote (votes : List (Nat × RollVote)) (hk : (votes.map Prod.fst).Nodup) (h : (pl, old) ∈ votes)
    (new : RollVote) (p : RollVote → Bool) :
    (votes.map fun v => if v.1 = pl then (pl, new) else v).countP (fun v => p v.2) +
        (if p old then 1 else 0) = votes.countP (fun v => p v.2) + if p new then 1 else 0 := by
  induction votes with
  | nil => cases h
  | cons v votes ih =>
    rw [List.map_cons, List.nodup_cons] at hk
    rw [List.map_cons, List.countP_cons, List.countP_cons]
    rcases List.mem_cons.1 h with rfl | h
    · -- nobody else is of his name
      have hrest : (votes.map fun v => if v.1 = pl then (pl, new) else v) = votes := by
        refine (List.map_congr_left fun q hq => ?_).trans (List.map_id votes)
        exact if_neg fun he => hk.1 (List.mem_map.2 ⟨q, hq, he⟩)
      rw [hrest]
      simp only [if_true]
      omega
    · have hne : v.1 ≠ pl := fun he => hk.1 (List.mem_map.2 ⟨_, h, he.symm⟩)
      rw [if_neg hne]
      have := ih hk.2 h
      omega

theorem countP_leave (votes : List (Nat × RollVote)) (hk : (votes.map Prod.fst).Nodup) (h : (pl, old) ∈ votes)
    (p : RollVote → Bool) :
    (votes.filter fun v => v.1 != pl).countP (fun v => p v.2) + (if p old then 1 else 0) =
      votes.countP fun v => p v.2 := by
  induction votes with
  | nil => cases h
  | cons v votes ih =>
    rw [List.map_cons, List.nodup_cons] at hk
    rw [List.countP_cons]
    rcases List.mem_cons.1 h with rfl | h
    · have hrest : (votes.filter fun v => v.1 != pl) = votes := by
        refine List.filter_eq_self.2 fun q hq => ?_
        simp only [bne_iff_ne, ne_eq]
        exact fun he => hk.1 (List.mem_map.2 ⟨q, hq, he⟩)
      rw [List.filter_cons_of_neg (by simp), hrest]
    · have hne : v.1 ≠ pl := fun he => hk.1 (List.mem_map.2 ⟨_, h, he.symm⟩)
      rw [List.filter_cons_of_pos (by simpa using hne), List.countP_cons]
      have := ih hk.2 h
      omega

theorem eligible_eq (r : Roll) :
    r.eligible = r.count .pass + r.count .need + r.count .greed + r.count .notEmitedYet := by
  unfold eligible count
  induction r.playerVote with
  | nil => rfl
  | cons v votes ih =>
    simp only [List.countP_cons, ih]
    cases v.2 <;> simp <;> omega

theorem pending_iff (r : Roll) : r.Pending ↔ 0 < r.count .notEmitedYet := by
  unfold Pending count
  rw [List.countP_pos_iff]
  simp

theorem eligible_le (r : Roll) : r.eligible ≤ r.playerVote.length := List.countP_le_length

theorem Regular.of_votes {q : Roll} (hr : r.Regular) (hk : (q.playerVote.map Prod.fst).Sublist (r.playerVote.map Prod.fst))
    (hv : ∀ v ∈ q.playerVote, v.2 ≠ .notValid) : q.Regular := by
  refine ⟨hr.keys.sublist hk, hv, lt_of_le_of_lt ?_ hr.size⟩
  simpa using hk.length_le

theorem setVote_keys (r : Roll) (pl : Nat) (new : RollVote) :
    (r.setVote pl new).map Prod.fst = r.playerVote.map Prod.fst := by
  unfold setVote
  rw [List.map_map]
  refine List.map_congr_left fun v _ => ?_
  simp only [Function.comp]
  split
  · next h => exact h.symm
  · rfl

theorem start_regular (itemGUID itemid itemSlot fill : Nat) (rollers : Rollers) :
    (start itemGUID itemid itemSlot fill rollers.guids).Regular := by
  have hperm := List.perm_insertionSort (· ≤ ·) rollers.guids
  unfold start voters
  rw [rollers.nodup.dedup]
  refine ⟨?_, fun v hv => ?_, ?_⟩
  · rw [List.map_map]
    exact (List.map_id _).symm ▸ hperm.nodup_iff.2 rollers.nodup
  · obtain ⟨pl, -, rfl⟩ := List.mem_map.1 hv
    exact fun h => by cases h
  · rw [List.length_map, hperm.length_eq]
    exact rollers.size

theorem start_tallied (itemGUID itemid itemSlot fill : Nat) (rollers : Rollers) :
    (start itemGUID itemid itemSlot fill rollers.guids).Tallied := by
  have hlen : (rollers.guids.dedup.insertionSort (· ≤ ·)).length = rollers.guids.length := by
    rw [rollers.nodup.dedup, (List.perm_insertionSort (· ≤ ·) _).length_eq]
  have hcount : ∀ p : RollVote → Bool, p .notEmitedYet = false →
      (voters rollers.guids).countP (fun v => p v.2) = 0 := by
    intro p hp
    rw [List.countP_eq_zero]
    intro v hv
    obtain ⟨pl, -, rfl⟩ := List.mem_map.1 hv
    simp [hp]
  refine ⟨?_, (hcount (· = .need) rfl).symm, (hcount (· = .greed) rfl).symm, (hcount (· = .pass) rfl).symm⟩
  unfold start eligible voters
  simp only
  rw [u8_eq _ (Nat.le_of_lt_succ rollers.size), List.countP_eq_length.2, List.length_map, hlen]
  intro v hv
  obtain ⟨pl, -, rfl⟩ := List.mem_map.1 hv
  rfl

theorem start_pending (itemGUID itemid itemSlot fill : Nat) (rollers : List Nat) :
    (start itemGUID itemid itemSlot fill rollers).Pending ↔ rollers ≠ [] := by
  constructor
  · rintro ⟨v, hv, -⟩ rfl
    cases hv
  · intro h
    obtain ⟨pl, hpl⟩ := List.exists_mem_of_ne_nil _ h
    refine ⟨(pl, .notEmitedYet), List.mem_map.2 ⟨pl, ?_, rfl⟩, rfl⟩
    exact (List.perm_insertionSort (· ≤ ·) _).mem_iff.2 (List.mem_dedup.2 hpl)

/-! ### A vote -/

section
variable {q : Roll} {new : RollVote}

theorem count_setVote (hr : r.Regular) (hold : (pl, old) ∈ r.playerVote) (hq : q.playerVote = r.setVote pl new)
    (w : RollVote) : q.count w + (if old = w then 1 else 0) = r.count w + if new = w then 1 else 0 := by
  have := countP_setVote r.playerVote hr.keys hold new fun v => decide (v = w)
  unfold count
  rw [hq]
  unfold setVote
  simpa using this

/-- A vote counted once leaves the roll tallied just if it is the voter's first. -/
theorem tallied_setVote (hr : r.Regular) (ht : r.Tallied) (hold : (pl, old) ∈ r.playerVote)
    (hq : q.playerVote = r.setVote pl new) (hnew : new = .pass ∨ new = .need ∨ new = .greed)
    (hrolling : q.totalPlayersRolling = r.totalPlayersRolling)
    (hneed : q.totalNeed = r.totalNeed + if new = .need then 1 else 0)
    (hgreed : q.totalGreed = r.totalGreed + if new = .greed then 1 else 0)
    (hpass : q.totalPass = r.totalPass + if new = .pass then 1 else 0) :
    q.Tallied ↔ old = .notEmitedYet := by
  have hcount := count_setVote hr hold hq
  have helig := eligible_eq q
  have helig' := eligible_eq r
  have h1 := hcount .pass
  have h2 := hcount .need
  have h3 := hcount .greed
  have h4 := hcount .notEmitedYet
  obtain ⟨t1, t2, t3, t4⟩ := ht
  have hvalid := hr.valid _ hold
  constructor
  · rintro ⟨-, k2, k3, k4⟩
    rcases hnew with rfl | rfl | rfl <;> cases old <;>
      simp at hvalid hneed hgreed hpass h1 h2 h3 h4 ⊢ <;> omega
  · rintro rfl
    rcases hnew with rfl | rfl | rfl <;>
      simp at hneed hgreed hpass h1 h2 h3 h4 <;> constructor <;> omega

end

/-- What a vote writes, as long as somebody is to vote: the counters do not wrap around. -/
theorem record_spec (hr : r.Regular) (ht : r.Tallied) (hp : r.Pending) (pl choice : Nat) (hc : choice ≤ 2) :
    ∃ new : RollVote, (new = .pass ∨ new = .need ∨ new = .greed) ∧
      (r.record pl choice).playerVote = r.setVote pl new ∧
      (r.record pl choice).totalPlayersRolling = r.totalPlayersRolling ∧
      (r.record pl choice).totalNeed = r.totalNeed + (if new = .need then 1 else 0) ∧
      (r.record pl choice).totalGreed = r.totalGreed + (if new = .greed then 1 else 0) ∧
      (r.record pl choice).totalPass = r.totalPass + if new = .pass then 1 else 0 := by
  have hpos := (pending_iff r).1 hp
  have hsum := eligible_eq r
  have hle := eligible_le r
  have hsize := hr.size
  obtain ⟨-, t2, t3, t4⟩ := ht
  match choice, hc with
  | 0, _ => exact ⟨.pass, Or.inl rfl, rfl, rfl, rfl, rfl, u8_eq _ (by omega)⟩
  | 1, _ => exact ⟨.need, Or.inr (Or.inl rfl), rfl, rfl, u8_eq _ (by omega), rfl, rfl⟩
  | 2, _ => exact ⟨.greed, Or.inr (Or.inr rfl), rfl, rfl, rfl, u8_eq _ (by omega), rfl⟩

theorem record_other (r : Roll) (pl choice : Nat) (hc : ¬choice ≤ 2) : r.record pl choice = r := by
  match choice, hc with
  | n + 3, _ => rfl

theorem record_keys (r : Roll) (pl choice : Nat) :
    (r.record pl choice).playerVote.map Prod.fst = r.playerVote.map Prod.fst := by
  unfold record
  split
  · exact setVote_keys r pl _
  · exact setVote_keys r pl _
  · exact setVote_keys r pl _
  · rfl

theorem record_regular (hr : r.Regular) (pl choice : Nat) : (r.record pl choice).Regular := by
  have hset : ∀ new, new ≠ .notValid → ∀ v ∈ r.setVote pl new, v.2 ≠ .notValid := by
    intro new hnew v hv
    obtain ⟨u, hu, rfl⟩ := List.mem_map.1 hv
    split
    · exact hnew
    · exact hr.valid u hu
  refine hr.of_votes (record_keys r pl choice ▸ List.Sublist.refl _) ?_
  unfold record
  split
  · exact hset _ fun h => by cases h
  · exact hset _ fun h => by cases h
  · exact hset _ fun h => by cases h
  · exact hr.valid

theorem record_complete (hr : r.Regular) (ht : r.Tallied) (hp : r.Pending) (pl choice : Nat) (hc : choice ≤ 2) :
    (r.record pl choice).complete = true ↔ r.count .notEmitedYet = 1 := by
  obtain ⟨new, hnew, -, h1, h2, h3, h4⟩ := record_spec hr ht hp pl choice hc
  have hpos := (pending_iff r).1 hp
  have hsum := eligible_eq r
  obtain ⟨t1, t2, t3, t4⟩ := ht
  simp only [complete, ge_iff_le, decide_eq_true_eq, h1, h2, h3, h4]
  rcases hnew with rfl | rfl | rfl <;> simp <;> omega

/-- **A vote that does not end the roll** keeps it in step just if it is the voter's first. -/
theorem record_inStep (hr : r.Regular) (ht : r.Tallied) (hp : r.Pending) (choice : Nat) (hc : choice ≤ 2)
    (hv : r.voteOf pl = some old) (hmore : r.count .notEmitedYet ≠ 1) :
    (r.record pl choice).Tallied ∧ (r.record pl choice).Pending ↔ old = .notEmitedYet := by
  obtain ⟨new, hnew, hq, h1, h2, h3, h4⟩ := record_spec hr ht hp pl choice hc
  have hold := mem_of_voteOf hv
  have htally := tallied_setVote hr ht hold hq hnew h1 h2 h3 h4
  refine ⟨fun h => htally.1 h.1, fun h => ⟨htally.2 h, ?_⟩⟩
  have hcount := count_setVote hr hold hq .notEmitedYet
  have hpos := (pending_iff r).1 hp
  have hne : new ≠ .notEmitedYet := by rcases hnew with rfl | rfl | rfl <;> exact fun h => by cases h
  rw [if_pos h, if_neg hne] at hcount
  rw [pending_iff]
  omega

/-! ### A departure -/

theorem dec8_if (n : Nat) (p : Prop) [Decidable p] (hpos : p → 0 < n) (hn : n < 256) :
    (if p then dec8 n else n) + (if p then 1 else 0) = n := by
  unfold dec8 u8
  split
  · next h => have := hpos h; omega
  · rfl

theorem leave_tallied (hr : r.Regular) (ht : r.Tallied) (hv : r.voteOf pl = some old) :
    (r.leave pl old).Tallied := by
  have hold := mem_of_voteOf hv
  have hcount : ∀ w : RollVote, (r.leave pl old).count w + (if old = w then 1 else 0) = r.count w := by
    intro w
    have := countP_leave r.playerVote hr.keys hold fun v => decide (v = w)
    simp only [decide_eq_true_eq] at this
    exact this
  have helig : (r.leave pl old).eligible + (if old ≠ .notValid then 1 else 0) = r.eligible := by
    have := countP_leave r.playerVote hr.keys hold fun v => decide (v ≠ .notValid)
    simp only [decide_eq_true_eq] at this
    exact this
  -- a counter to be lowered counts his vote, so it is not 0
  have hpos : ∀ w : RollVote, old = w → 0 < r.count w := fun w h => by
    have := hcount w
    rw [if_pos h] at this
    omega
  have hsum := eligible_eq r
  have hle := eligible_le r
  have hsize := hr.size
  obtain ⟨t1, t2, t3, t4⟩ := ht
  constructor
  · have := dec8_if r.totalPlayersRolling (old ≠ .notValid) (fun h => by rw [if_pos h] at helig; omega) (by omega)
    simp only [leave]
    unfold leave at helig
    omega
  · have := dec8_if r.totalNeed (old = .need) (fun h => t2 ▸ hpos _ h) (by omega)
    have := hcount .need
    simp only [leave] at this ⊢
    omega
  · have := dec8_if r.totalGreed (old = .greed) (fun h => t3 ▸ hpos _ h) (by omega)
    have := hcount .greed
    simp only [leave] at this ⊢
    omega
  · have := dec8_if r.totalPass (old = .pass) (fun h => t4 ▸ hpos _ h) (by omega)
    have := hcount .pass
    simp only [leave] at this ⊢
    omega

theorem without_regular (hr : r.Regular) (pl : Nat) : (r.without pl).Regular := by
  unfold without
  split
  · exact hr
  · exact hr.of_votes (List.filter_sublist.map _) fun v hv => hr.valid v (List.mem_filter.1 hv).1

/-- **A departure** leaves a roll in step just if somebody else is to vote. -/
theorem without_inStep (hr : r.Regular) (ht : r.Tallied) (hp : r.Pending) (pl : Nat) :
    (r.without pl).Tallied ∧ (r.without pl).Pending ↔
      (r.voteOf pl ≠ none → ∃ v ∈ r.playerVote, v.1 ≠ pl ∧ v.2 = .notEmitedYet) := by
  unfold without
  split
  · next hv => exact ⟨fun _ h => absurd hv h, fun _ => ⟨ht, hp⟩⟩
  · next old hv =>
    have hpend : (r.leave pl old).Pending ↔ ∃ v ∈ r.playerVote, v.1 ≠ pl ∧ v.2 = .notEmitedYet := by
      unfold Pending leave
      simp only [List.mem_filter, bne_iff_ne, ne_eq, and_assoc]
    rw [hpend]
    exact ⟨fun h _ => h.2, fun h => ⟨leave_tallied hr ht hv, h (by simp [hv])⟩⟩

end Roll

/-! ## The table -/

namespace RollTable

variable {s : RollTable}

theorem countRollVote_mem (hs : s.Regular) {r : Roll} (hr : r ∈ s.rollId) (isValid itemsEmpty : Roll → Bool)
    (hvalid : isValid r = true) (hitems : itemsEmpty r = false) (pl choice : Nat) (hv : r.voteOf pl ≠ none) (q : Roll) :
    q ∈ (s.countRollVote pl r.itemGUID choice isValid itemsEmpty).rollId ↔
      (q ∈ s.rollId ∧ q ≠ r) ∨ (q = r.record pl choice ∧ (r.record pl choice).complete = false) := by
  have huniq : ∀ p ∈ s.rollId, p.itemGUID = r.itemGUID → p = r := fun p hp h =>
    List.inj_on_of_nodup_map hs.guids hp hr h
  have hget : Rolls.getRoll s.rollId isValid r.itemGUID = some r := by
    unfold Rolls.getRoll
    cases hf : s.rollId.find? fun p => p.itemGUID == r.itemGUID && isValid p with
    | none => exact absurd (List.find?_eq_none.1 hf r hr) (by simp [hvalid])
    | some p =>
      have hp := List.find?_some hf
      simp only [Bool.and_eq_true, beq_iff_eq] at hp
      rw [huniq p (List.mem_of_find?_eq_some hf) hp.1]
  have hguid : (r.record pl choice).itemGUID = r.itemGUID := by unfold Roll.record; split <;> rfl
  have hmap : ∀ p, p ∈ (s.rollId.map fun q => if q.itemGUID = r.itemGUID then r.record pl choice else q) ↔
      (p ∈ s.rollId ∧ p ≠ r) ∨ p = r.record pl choice := by
    intro p
    rw [List.mem_map]
    constructor
    · rintro ⟨x, hx, rfl⟩
      split
      · exact Or.inr rfl
      · next h => exact Or.inl ⟨hx, fun he => h (he ▸ rfl)⟩
    · rintro (⟨hp, hne⟩ | rfl)
      · exact ⟨p, hp, if_neg fun h => hne (huniq p hp h)⟩
      · exact ⟨r, hr, if_pos rfl⟩
  unfold countRollVote Rolls.castVote
  simp only [hget, if_neg hv, hitems, Bool.false_eq_true, if_false]
  cases hc : (r.record pl choice).complete with
  | false =>
    simp only [Bool.false_eq_true, if_false]
    rw [hmap]
    simp
  | true =>
    simp only [if_true, countTheRoll, Rolls.erase, List.mem_filter, bne_iff_ne, ne_eq, hguid]
    rw [hmap]
    constructor
    · rintro ⟨⟨h1, h2⟩ | rfl, h3⟩
      · exact Or.inl ⟨h1, h2⟩
      · exact absurd hguid h3
    · rintro (⟨h1, h2⟩ | ⟨-, h⟩)
      · exact ⟨Or.inl ⟨h1, h2⟩, fun h => h2 (huniq q h1 h)⟩
      · cases h

theorem countRollVote_rejected (s : RollTable) (pl guid choice : Nat) (isValid itemsEmpty : Roll → Bool)
    (h : ¬∃ r ∈ s.rollId, r.itemGUID = guid ∧ isValid r = true ∧ r.voteOf pl ≠ none ∧ itemsEmpty r = false) :
    s.countRollVote pl guid choice isValid itemsEmpty = s := by
  unfold countRollVote
  rcases Rolls.castVote_spec s.rollId isValid itemsEmpty pl guid choice with hc | ⟨r, hr, h1, h2, h3, h4, -⟩
  · rw [hc]
  · exact absurd ⟨r, hr, h1, h2, h3, h4⟩ h

theorem removeRolls_rollId (hs : s.Regular) (pl : Nat) (isValid itemsEmpty : Roll → Bool) :
    (s.removeRolls pl isValid itemsEmpty).rollId = s.rollId.map (Roll.without pl) := by
  unfold removeRolls
  rw [Rolls.removeRolls_eq _ _ _ hs.guids]

theorem endRoll_rollId (s : RollTable) : s.endRoll.rollId = [] := by
  unfold endRoll
  suffices h : ∀ (l : Rolls) (t : RollTable), (∀ q ∈ t.rollId, q ∈ l) → (l.foldl countTheRoll t).rollId = [] from
    h s.rollId s fun _ h => h
  intro l
  induction l with
  | nil =>
    intro t ht
    exact List.eq_nil_iff_forall_not_mem.2 fun q hq => List.not_mem_nil (ht q hq)
  | cons r l ih =>
    intro t ht
    refine ih (t.countTheRoll r) fun q hq => ?_
    obtain ⟨hq1, hq2⟩ := List.mem_filter.1 hq
    rcases List.mem_cons.1 (ht q hq1) with rfl | h
    · simp at hq2
    · exact h

theorem record_itemGUID (r : Roll) (pl choice : Nat) : (r.record pl choice).itemGUID = r.itemGUID := by
  unfold Roll.record
  split <;> rfl

theorem castVote_guids (s : RollTable) (r : Roll) (pl choice : Nat) :
    (s.rollId.map fun q => if q.itemGUID = r.itemGUID then r.record pl choice else q).map Roll.itemGUID =
      s.rollId.map Roll.itemGUID := by
  rw [List.map_map]
  refine List.map_congr_left fun q _ => ?_
  simp only [Function.comp]
  split
  · next h => rw [record_itemGUID, h]
  · rfl

theorem countRollVote_guids (s : RollTable) (pl guid choice : Nat) (isValid itemsEmpty : Roll → Bool) :
    let t := s.countRollVote pl guid choice isValid itemsEmpty
    (t.rollId.map Roll.itemGUID).Sublist (s.rollId.map Roll.itemGUID) ∧ t.nextItemGuid = s.nextItemGuid ∧
      ∀ r ∈ s.rollId, (∃ q ∈ t.rollId, q.itemGUID = r.itemGUID) ∨ ∃ q ∈ t.resolved, q.itemGUID = r.itemGUID := by
  intro t
  have hself : ∀ r ∈ s.rollId, ∃ q ∈ s.rollId, q.itemGUID = r.itemGUID := fun r hr => ⟨r, hr, rfl⟩
  rcases Rolls.castVote_spec s.rollId isValid itemsEmpty pl guid choice with hc | ⟨r, hr, rfl, -, -, -, hc⟩
  · have ht : t = s := by
      show s.countRollVote pl guid choice isValid itemsEmpty = s
      unfold countRollVote
      rw [hc]
    rw [ht]
    exact ⟨List.Sublist.refl _, rfl, fun r hr => Or.inl (hself r hr)⟩
  have hguids := castVote_guids s r pl choice
  have hkeep : ∀ p ∈ s.rollId, ∃ q ∈ s.rollId.map fun q => if q.itemGUID = r.itemGUID then r.record pl choice else q,
      q.itemGUID = p.itemGUID := by
    intro p hp
    have : p.itemGUID ∈ s.rollId.map Roll.itemGUID := List.mem_map_of_mem hp
    rw [← hguids] at this
    exact List.mem_map.1 this
  generalize hrolls : (s.rollId.map fun q => if q.itemGUID = r.itemGUID then r.record pl choice else q) = rolls at *
  cases hcomp : (r.record pl choice).complete with
  | false =>
    have ht : t = { s with rollId := rolls } := by
      show s.countRollVote pl r.itemGUID choice isValid itemsEmpty = _
      unfold countRollVote
      simp only [hc, hcomp, Bool.false_eq_true, if_false]
    rw [ht]
    exact ⟨hguids ▸ List.Sublist.refl _, rfl, fun p hp => Or.inl (hkeep p hp)⟩
  | true =>
    have ht : t = { s with rollId := rolls }.countTheRoll (r.record pl choice) := by
      show s.countRollVote pl r.itemGUID choice isValid itemsEmpty = _
      unfold countRollVote
      simp only [hc, hcomp, if_true]
    rw [ht]
    refine ⟨hguids ▸ List.filter_sublist.map _, rfl, fun p hp => ?_⟩
    obtain ⟨q, hq, he⟩ := hkeep p hp
    by_cases hg : q.itemGUID = (r.record pl choice).itemGUID
    · exact Or.inr ⟨r.record pl choice, by simp [countTheRoll], hg.symm.trans he⟩
    · exact Or.inl ⟨q, List.mem_filter.2 ⟨hq, by simpa using hg⟩, he⟩

theorem without_guids (rolls : Rolls) (pl : Nat) :
    (rolls.map (Roll.without pl)).map Roll.itemGUID = rolls.map Roll.itemGUID := by
  rw [List.map_map]
  exact List.map_congr_left fun r _ => Roll.without_itemGUID pl r

/-! ## Events -/

theorem countRollVote_regular (hs : s.Regular) (pl guid choice : Nat) (isValid itemsEmpty : Roll → Bool) :
    (s.countRollVote pl guid choice isValid itemsEmpty).Regular := by
  obtain ⟨hsub, hnext, -⟩ := countRollVote_guids s pl guid choice isValid itemsEmpty
  refine ⟨fun q hq => ?_, hs.guids.sublist hsub, fun q hq => ?_⟩
  · by_cases h : ∃ r ∈ s.rollId, r.itemGUID = guid ∧ isValid r = true ∧ r.voteOf pl ≠ none ∧ itemsEmpty r = false
    · obtain ⟨r, hr, rfl, h2, h3, h4⟩ := h
      rcases (countRollVote_mem hs hr isValid itemsEmpty h2 h4 pl choice h3 q).1 hq with ⟨h5, -⟩ | ⟨rfl, -⟩
      · exact hs.rolls q h5
      · exact Roll.record_regular (hs.rolls r hr) pl choice
    · rw [countRollVote_rejected s pl guid choice isValid itemsEmpty h] at hq
      exact hs.rolls q hq
  · obtain ⟨r, hr, he⟩ := List.mem_map.1 (hsub.subset (List.mem_map_of_mem hq))
    rw [← he, hnext]
    exact hs.fresh r hr

/-- **Every event** leaves one vote a player and the GUIDs distinct. -/
theorem step_regular (hs : s.Regular) (a : RollEvent) : (s.step a).Regular := by
  cases a with
  | startRoll needBeforeGreed itemid itemSlot fill rollers =>
    refine ⟨fun r hr => ?_, ?_, fun r hr => ?_⟩ <;> simp only [step, startRoll] at *
    · split at hr
      · exact hs.rolls r hr
      · rcases List.mem_append.1 hr with hr | hr
        · exact hs.rolls r hr
        · rw [List.mem_singleton.1 hr]
          exact Roll.start_regular _ _ _ _ rollers
    · split
      · exact hs.guids
      · rw [List.map_append, List.nodup_append]
        refine ⟨hs.guids, List.nodup_singleton _, fun x hx y hy => ?_⟩
        obtain ⟨r, hr, rfl⟩ := List.mem_map.1 hx
        rw [List.mem_singleton.1 hy]
        exact Nat.ne_of_lt (hs.fresh r hr)
    · split at hr
      · exact Nat.lt_succ_of_lt (hs.fresh r hr)
      · rcases List.mem_append.1 hr with hr | hr
        · exact Nat.lt_succ_of_lt (hs.fresh r hr)
        · rw [List.mem_singleton.1 hr]
          exact Nat.lt_succ_self _
  | vote pl guid choice isValid itemsEmpty => exact countRollVote_regular hs pl guid choice isValid itemsEmpty
  | removeMember pl isValid itemsEmpty =>
    have hid := removeRolls_rollId hs pl isValid itemsEmpty
    refine ⟨fun r hr => ?_, ?_, fun r hr => ?_⟩ <;> simp only [step] at * <;> rw [hid] at *
    · obtain ⟨r0, h0, rfl⟩ := List.mem_map.1 hr
      exact Roll.without_regular (hs.rolls r0 h0) pl
    · rw [without_guids]
      exact hs.guids
    · obtain ⟨r0, h0, rfl⟩ := List.mem_map.1 hr
      rw [Roll.without_itemGUID]
      exact hs.fresh r0 h0
  | disconnect pl => exact hs
  | endRoll =>
    have hid := endRoll_rollId s
    refine ⟨fun r hr => ?_, ?_, fun r hr => ?_⟩ <;> simp only [step] at * <;> rw [hid] at *
    · cases hr
    · exact List.nodup_nil
    · cases hr
  | disband => exact ⟨fun r hr => absurd hr List.not_mem_nil, List.nodup_nil, fun r hr => absurd hr List.not_mem_nil⟩

theorem startRoll_inStep (hi : s.InStep) (needBeforeGreed : Bool) (itemid itemSlot fill : Nat) (rollers : Rollers) :
    (s.startRoll needBeforeGreed itemid itemSlot fill rollers.guids).InStep ↔
      needBeforeGreed = true ∨ rollers.guids ≠ [] := by
  have hnew := Roll.start_tallied s.nextItemGuid itemid itemSlot fill rollers
  have hpend := Roll.start_pending s.nextItemGuid itemid itemSlot fill rollers.guids
  have htotal : (Roll.start s.nextItemGuid itemid itemSlot fill rollers.guids).totalPlayersRolling = 0 ↔
      rollers.guids = [] := by
    unfold Roll.start
    simp only
    rw [u8_eq _ (Nat.le_of_lt_succ rollers.size), List.length_eq_zero_iff]
  unfold startRoll InStep
  simp only
  by_cases h : needBeforeGreed = true ∧
      (Roll.start s.nextItemGuid itemid itemSlot fill rollers.guids).totalPlayersRolling = 0
  · rw [if_pos h]
    exact ⟨fun _ => Or.inl h.1, fun _ => hi⟩
  · rw [if_neg h]
    constructor
    · intro hall
      exact Or.inr (hpend.1 (hall _ (List.mem_append_right _ (List.mem_singleton_self _))).2)
    · intro hg r hr
      rcases List.mem_append.1 hr with hr | hr
      · exact hi r hr
      · rw [List.mem_singleton.1 hr]
        exact ⟨hnew, hpend.2 fun he => hg.elim (fun hn => h ⟨hn, htotal.2 he⟩) fun hne => hne he⟩

/-- **A vote** leaves the rolls in step just if it is heedful. -/
theorem countRollVote_inStep (hs : s.Regular) (hi : s.InStep) (pl guid choice : Nat) (isValid itemsEmpty : Roll → Bool) :
    (s.countRollVote pl guid choice isValid itemsEmpty).InStep ↔
      s.Heedful (.vote pl guid choice isValid itemsEmpty) := by
  by_cases h : ∃ r ∈ s.rollId, r.itemGUID = guid ∧ isValid r = true ∧ r.voteOf pl ≠ none ∧ itemsEmpty r = false
  swap
  · rw [countRollVote_rejected s pl guid choice isValid itemsEmpty h]
    refine ⟨fun _ r hr h1 h2 h3 _ old hold => ?_, fun _ => hi⟩
    exact absurd ⟨r, hr, h1, h2, by simp [hold], h3⟩ h
  obtain ⟨r, hr, rfl, h2, h3, h4⟩ := h
  have hmem := countRollVote_mem hs hr isValid itemsEmpty h2 h4 pl choice h3
  obtain ⟨ht, hp⟩ := hi r hr
  have hreg := hs.rolls r hr
  obtain ⟨old, hold⟩ := Option.ne_none_iff_exists'.1 h3
  have hrest : (s.countRollVote pl r.itemGUID choice isValid itemsEmpty).InStep ↔
      ((r.record pl choice).complete = false → (r.record pl choice).Tallied ∧ (r.record pl choice).Pending) := by
    constructor
    · exact fun hall hc => hall _ ((hmem _).2 (Or.inr ⟨rfl, hc⟩))
    · intro hrec q hq
      rcases (hmem q).1 hq with ⟨hq1, -⟩ | ⟨rfl, hc⟩
      · exact hi q hq1
      · exact hrec hc
  rw [hrest]
  by_cases hc : choice ≤ 2
  · have hcomp := Roll.record_complete hreg ht hp pl choice hc
    have hheed : s.Heedful (.vote pl r.itemGUID choice isValid itemsEmpty) ↔
        (old = .notEmitedYet ∨ r.count .notEmitedYet = 1) := by
      constructor
      · exact fun hg => hg r hr rfl h2 h4 hc old hold
      · intro hg q hq he _ _ _ old' hold'
        obtain rfl := List.inj_on_of_nodup_map hs.guids hq hr he
        rw [hold] at hold'
        exact Option.some.inj hold' ▸ hg
    rw [hheed]
    by_cases hone : r.count .notEmitedYet = 1
    · rw [hcomp.2 hone]
      exact ⟨fun _ => Or.inr hone, fun _ hf => by cases hf⟩
    · have hinc : (r.record pl choice).complete = false := by
        cases hb : (r.record pl choice).complete with
        | false => rfl
        | true => exact absurd (hcomp.1 hb) hone
      have := Roll.record_inStep hreg ht hp choice hc hold hone
      exact ⟨fun hg => Or.inl (this.1 (hg hinc)), fun hg _ => this.2 (hg.resolve_right hone)⟩
  · rw [Roll.record_other r pl choice hc]
    exact ⟨fun _ q hq he _ _ hc' => absurd hc' hc, fun _ _ => ⟨ht, hp⟩⟩

theorem removeRolls_inStep (hs : s.Regular) (hi : s.InStep) (pl : Nat) (isValid itemsEmpty : Roll → Bool) :
    (s.removeRolls pl isValid itemsEmpty).InStep ↔ s.Heedful (.removeMember pl isValid itemsEmpty) := by
  unfold InStep
  rw [removeRolls_rollId hs]
  constructor
  · intro hall r hr
    exact (Roll.without_inStep (hs.rolls r hr) (hi r hr).1 (hi r hr).2 pl).1
      (hall _ (List.mem_map_of_mem hr))
  · intro hg q hq
    obtain ⟨r, hr, rfl⟩ := List.mem_map.1 hq
    exact (Roll.without_inStep (hs.rolls r hr) (hi r hr).1 (hi r hr).2 pl).2 (hg r hr)

theorem endRoll_counted (s : RollTable) : ∀ r ∈ s.rollId, ∃ q ∈ s.endRoll.resolved, q.itemGUID = r.itemGUID := by
  unfold endRoll
  suffices h : ∀ (l : Rolls) (t : RollTable) (r : Roll), r ∈ l ∨ r ∈ t.resolved →
      r ∈ (l.foldl countTheRoll t).resolved from fun r hr => ⟨r, h _ s r (Or.inl hr), rfl⟩
  intro l
  induction l with
  | nil => intro t r hr; exact hr.resolve_left List.not_mem_nil
  | cons r0 l ih =>
    intro t r hr
    refine ih (t.countTheRoll r0) r ?_
    rcases hr with hr | hr
    · rcases List.mem_cons.1 hr with rfl | hr
      · exact Or.inr (List.mem_append_right _ (List.mem_singleton_self _))
      · exact Or.inl hr
    · exact Or.inr (List.mem_append_left _ hr)

/-- **No roll is dropped uncounted**, whatever happens to the group short of its end. -/
theorem step_counted (hs : s.Regular) (a : RollEvent) :
    a = .disband ∨ ∀ r ∈ s.rollId, (∃ q ∈ (step s a).rollId, q.itemGUID = r.itemGUID) ∨
      ∃ q ∈ (step s a).resolved, q.itemGUID = r.itemGUID := by
  cases a with
  | startRoll needBeforeGreed itemid itemSlot fill rollers =>
    refine Or.inr fun r hr => Or.inl ⟨r, ?_, rfl⟩
    simp only [step, startRoll]
    split
    · exact hr
    · exact List.mem_append_left _ hr
  | vote pl guid choice isValid itemsEmpty =>
    exact Or.inr (countRollVote_guids s pl guid choice isValid itemsEmpty).2.2
  | removeMember pl isValid itemsEmpty =>
    refine Or.inr fun r hr => Or.inl ⟨r.without pl, ?_, Roll.without_itemGUID pl r⟩
    exact removeRolls_rollId hs pl isValid itemsEmpty ▸ List.mem_map_of_mem hr
  | disconnect pl => exact Or.inr fun r hr => Or.inl ⟨r, hr, rfl⟩
  | endRoll => exact Or.inr fun r hr => Or.inr (endRoll_counted s r hr)
  | disband => exact Or.inl rfl

/-- **One event** is lawful just if it is heedful. -/
theorem step_lawful (hs : s.Regular) (hi : s.InStep) (a : RollEvent) : s.Lawful a ↔ s.Heedful a := by
  have hiff : s.Lawful a ↔ (step s a).InStep := ⟨fun h => h.inStep, fun h => ⟨h, step_counted hs a⟩⟩
  rw [hiff]
  cases a with
  | startRoll needBeforeGreed itemid itemSlot fill rollers =>
    exact startRoll_inStep hi needBeforeGreed itemid itemSlot fill rollers
  | vote pl guid choice isValid itemsEmpty => exact countRollVote_inStep hs hi pl guid choice isValid itemsEmpty
  | removeMember pl isValid itemsEmpty => exact removeRolls_inStep hs hi pl isValid itemsEmpty
  | disconnect pl => exact ⟨fun _ => trivial, fun _ => hi⟩
  | endRoll => exact ⟨fun _ => trivial, fun _ _ hr => absurd (endRoll_rollId s ▸ hr) List.not_mem_nil⟩
  | disband => exact ⟨fun _ => trivial, fun _ _ hr => absurd hr List.not_mem_nil⟩

theorem regular_empty : Regular {} :=
  ⟨fun _ hr => absurd hr List.not_mem_nil, List.nodup_nil, fun _ hr => absurd hr List.not_mem_nil⟩

theorem inStep_empty : InStep {} := fun _ hr => absurd hr List.not_mem_nil

/-- **The rolls of a group stay in step with their votes**, and those in which all have voted are
counted and gone, just as long as the events are heedful. -/
theorem tallies_kept (as : List RollEvent) :
    Transition.Along step Lawful {} as ↔ Transition.Along step Heedful {} as :=
  Transition.along_iff (fun _ a hs => step_regular hs a) (fun _ _ _ h => h.inStep)
    (fun _ a hs hi => step_lawful hs hi a) regular_empty inStep_empty

/-- A roll of three players, in which the first votes twice. -/
def votedTwice : List RollEvent :=
  [.startRoll false 25 0 0 ⟨[1, 2, 3], by decide, by decide⟩,
    .vote 1 1 1 (fun _ => true) fun _ => false, .vote 1 1 0 (fun _ => true) fun _ => false]

/-- **Need, then pass**: both are counted, and the roll has a vote recorded less than it counts. -/
theorem tallies_broken : ¬Transition.Along step Lawful {} votedTwice := by
  rintro ⟨-, -, h, -⟩
  have hr : ({ itemGUID := 1, itemid := 25, itemSlot := 0, fill := 0
               playerVote := [(1, .pass), (2, .notEmitedYet), (3, .notEmitedYet)]
               totalPlayersRolling := 3, totalNeed := 1, totalPass := 1 } : Roll).Tallied :=
    (h.inStep _ (List.mem_singleton_self _)).1
  exact absurd hr.need (by decide)

end RollTable

end BlizzLike
