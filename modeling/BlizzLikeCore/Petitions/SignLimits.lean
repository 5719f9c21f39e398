import BlizzLikeCore.Petitions.PetitionsHandler
import Mathlib.Data.Finset.Card
import Mathlib.Data.Set.Function

/-!
# The limits of a petition

The handler keeps the limits against the table, and the queue may hold more.  So the limits are put on the
*signers*, the players whose signature is in the table or in the queue (`FairSigners`): the delay thread adds nobody to
them, and a request adds one.  A petition stays within its limits, whatever the delay thread does, if and only if
each signature that is handed over is one that its signers allow (`UpToDate`).

    work_spec     : a step of the delay thread, on the rows of table and queue
    drained       : it gets through the queue, and then all signers are in the table
    step_fair     : a step keeps the signers fair if and only if it is up to date
    signs_limited : the result, for every run
-/

namespace BlizzLike

/-! ## Signers -/

def signers (g : Nat) (rows : List SignRow) : Finset Nat := ((signaturesOf g rows).map SignRow.playerguid).toFinset

/-- The limits of a petition, on its signers. -/
structure FairSigners (account : Nat → Nat) (p : Petition) (players : Finset Nat) : Prop where
  count : players.card ≤ p.type
  accounts : Set.InjOn account players
  owner : p.ownerguid ∉ players

variable {w : PetitionRealm} {account : Nat → Nat} {p : Petition} {g : Nat}

theorem mem_signers {rows : List SignRow} {pl : Nat} : pl ∈ signers g rows ↔ ∃ r ∈ rows, r.key = (g, pl) := by
  simp only [signers, signaturesOf, List.mem_toFinset, List.mem_map, List.mem_filter, beq_iff_eq, SignRow.key,
    Prod.mk.injEq]
  exact ⟨fun ⟨r, ⟨hr, hg⟩, hp⟩ => ⟨r, hr, hg, hp⟩, fun ⟨r, hr, hg, hp⟩ => ⟨r, ⟨hr, hg⟩, hp⟩⟩

theorem FairSigners.mono {players players' : Finset Nat} (h : FairSigners account p players) (hsub : players' ⊆ players) :
    FairSigners account p players' where
  count := (Finset.card_le_card hsub).trans h.count
  accounts := h.accounts.mono (by exact_mod_cast hsub)
  owner := fun hin => h.owner (hsub hin)

theorem fairSigners_insert {players : Finset Nat} (h : FairSigners account p players) {pl : Nat} (hne : p.ownerguid ≠ pl) :
    FairSigners account p (insert pl players) ↔
      pl ∈ players ∨ players.card < p.type ∧ ∀ other ∈ players, account other ≠ account pl := by
  by_cases hin : pl ∈ players
  · simp [hin, h]
  · have hout : pl ∉ (players : Set Nat) := by exact_mod_cast hin
    constructor
    · intro hf
      have hcount := hf.count
      rw [Finset.card_insert_of_notMem hin] at hcount
      refine Or.inr ⟨hcount, fun other ho he => hin ?_⟩
      have heq := hf.accounts (by simp [ho]) (by simp) he
      exact heq ▸ ho
    · rintro (habs | ⟨hcount, hother⟩)
      · exact absurd habs hin
      · refine ⟨?_, ?_, ?_⟩
        · rw [Finset.card_insert_of_notMem hin]
          exact hcount
        · rw [Finset.coe_insert, Set.injOn_insert hout]
          refine ⟨h.accounts, ?_⟩
          rintro ⟨other, ho, he⟩
          exact hother other (by exact_mod_cast ho) he
        · rw [Finset.mem_insert, not_or]
          exact ⟨hne, h.owner⟩

/-! ## Rows -/

/-- The rows of the table: one for each key, with the account of the player. -/
structure StoredSigns (account : Nat → Nat) (rows : List SignRow) : Prop where
  keys : (rows.map SignRow.key).Nodup
  account : ∀ r ∈ rows, r.playerAccount = account r.playerguid

theorem StoredSigns.insertSign {rows : List SignRow} (h : StoredSigns account rows) {r : SignRow}
    (hr : r.playerAccount = account r.playerguid) : StoredSigns account ((insertSign r rows).getD rows) := by
  unfold BlizzLike.insertSign
  split
  · exact h
  · next hnew =>
    refine ⟨?_, ?_⟩
    · rw [Option.getD_some, List.map_append, List.map_singleton]
      exact List.nodup_append.2 ⟨h.keys, by simp, by
        rintro k hk k' hk' rfl
        exact hnew (List.mem_singleton.1 hk' ▸ hk)⟩
    · intro r' hr'
      rcases List.mem_append.1 hr' with hr' | hr'
      · exact h.account r' hr'
      · exact List.mem_singleton.1 hr' ▸ hr

theorem signers_insertSign (r : SignRow) (rows more : List SignRow) :
    signers g ((insertSign r rows).getD rows ++ more) = signers g (rows ++ r :: more) := by
  ext pl
  rw [mem_signers, mem_signers]
  unfold insertSign
  split
  · next hdup =>
    obtain ⟨r', hr', hk⟩ := List.mem_map.1 hdup
    constructor
    · rintro ⟨q, hq, he⟩
      exact ⟨q, by simp at hq ⊢; tauto, he⟩
    · rintro ⟨q, hq, he⟩
      rcases List.mem_append.1 hq with hq | hq
      · exact ⟨q, List.mem_append_left _ hq, he⟩
      · rcases List.mem_cons.1 hq with rfl | hq
        · exact ⟨r', List.mem_append_left _ hr', hk.trans he⟩
        · exact ⟨q, List.mem_append_right _ hq, he⟩
  · rw [Option.getD_some, List.append_assoc, List.singleton_append]

theorem signers_mono {rows rows' : List SignRow} (h : rows ⊆ rows') : signers g rows ⊆ signers g rows' := by
  intro pl hpl
  obtain ⟨r, hr, hk⟩ := mem_signers.1 hpl
  exact mem_signers.2 ⟨r, h hr, hk⟩

theorem signers_append_singleton (rows : List SignRow) (r : SignRow) :
    signers g (rows ++ [r]) = if r.petitionguid = g then insert r.playerguid (signers g rows) else signers g rows := by
  unfold signers signaturesOf
  rw [List.filter_append, List.map_append, List.toFinset_append]
  by_cases hg : r.petitionguid = g
  · rw [if_pos hg, List.filter_cons_of_pos (by simpa using hg)]
    ext pl
    simp
  · rw [if_neg hg, List.filter_cons_of_neg (by simpa using hg)]
    simp

theorem fair_iff_of_stored {rows : List SignRow} (h : StoredSigns account rows) :
    FairSigners account p (signers g rows) ↔ (signaturesOf g rows).length ≤ p.type ∧
      ((signaturesOf g rows).map SignRow.playerAccount).Nodup ∧
      ∀ r ∈ signaturesOf g rows, r.playerguid ≠ p.ownerguid := by
  have hplayers : ((signaturesOf g rows).map SignRow.playerguid).Nodup := by
    have hkeys : ((signaturesOf g rows).map SignRow.key).Nodup :=
      h.keys.sublist (List.filter_sublist.map SignRow.key)
    refine (List.nodup_map_iff_inj_on hkeys.of_map).2 fun r hr r' hr' he => ?_
    refine (List.nodup_map_iff_inj_on hkeys.of_map).1 hkeys r hr r' hr' ?_
    simp only [signaturesOf, List.mem_filter, beq_iff_eq] at hr hr'
    simp only [SignRow.key, hr.2, hr'.2, he]
  have hcard : (signers g rows).card = (signaturesOf g rows).length := by
    rw [signers, List.toFinset_card_of_nodup hplayers, List.length_map]
  have haccounts : (signaturesOf g rows).map SignRow.playerAccount =
      ((signaturesOf g rows).map SignRow.playerguid).map account := by
    rw [List.map_map]
    exact List.map_congr_left fun r hr => h.account r (List.mem_of_mem_filter hr)
  have hinj : Set.InjOn account (signers g rows) ↔ ((signaturesOf g rows).map SignRow.playerAccount).Nodup := by
    rw [haccounts, List.nodup_map_iff_inj_on hplayers]
    simp only [Set.InjOn, signers, List.coe_toFinset, Set.mem_ofPred_eq]
  have howner : p.ownerguid ∉ signers g rows ↔ ∀ r ∈ signaturesOf g rows, r.playerguid ≠ p.ownerguid := by
    simp [signers]
  constructor
  · rintro ⟨hcount, hacc, hown⟩
    exact ⟨hcard ▸ hcount, hinj.1 hacc, howner.1 hown⟩
  · rintro ⟨hcount, hacc, hown⟩
    exact ⟨hcard ▸ hcount, hinj.2 hacc, howner.2 hown⟩

/-! ## The delay thread -/

namespace Database

variable {d : Database Unit SignRow (List SignRow)}

/-- Only signatures are handed over, and the delay thread is on. -/
structure OnlySigns (d : Database Unit SignRow (List SignRow)) (waiting : List SignRow) : Prop where
  tran : d.tranQueues () = none
  active : d.active = true
  running : d.running = true
  /-- What waits: the statement that is executed, and the queue. -/
  waiting : (d.point = .looping ∨ d.point = .dequeuing) ∧ d.queue = waiting.map .statement ∨
    ∃ r rest, waiting = r :: rest ∧ d.point = .statement r ∧ d.queue = rest.map .statement

theorem OnlySigns.loops {waiting : List SignRow} (h : d.OnlySigns waiting) (hp : d.point = .looping) (fails : Bool) :
    (d.work insertSign fails).OnlySigns waiting ∧ (d.work insertSign fails).connection = d.connection ∧
      (d.work insertSign fails).point = .dequeuing := by
  have hwork : d.work insertSign fails = { d with point := .dequeuing } := by
    unfold Database.work
    rw [hp]
    simp only [h.running, if_true]
  rw [hwork]
  refine ⟨⟨h.tran, h.active, h.running, ?_⟩, rfl, rfl⟩
  rcases h.waiting with ⟨-, hqueue⟩ | ⟨r, rest, -, hpoint, -⟩
  · exact Or.inl ⟨Or.inr rfl, hqueue⟩
  · rw [hp] at hpoint
    cases hpoint

theorem OnlySigns.dequeues {waiting : List SignRow} (h : d.OnlySigns waiting) (hp : d.point = .dequeuing)
    (fails : Bool) :
    (d.work insertSign fails).OnlySigns waiting ∧ (d.work insertSign fails).connection = d.connection ∧
      ∀ r rest, waiting = r :: rest → (d.work insertSign fails).point = .statement r := by
  rcases h.waiting with ⟨-, hqueue⟩ | ⟨r, rest, -, hpoint, -⟩
  · unfold Database.work
    rw [hp]
    simp only [h.active, if_true, hqueue]
    cases waiting with
    | nil => exact ⟨h, rfl, nofun⟩
    | cons r rest =>
      refine ⟨⟨h.tran, rfl, h.running, Or.inr ⟨r, rest, rfl, rfl, rfl⟩⟩, rfl, ?_⟩
      intro r' rest' heq
      cases heq
      rfl
  · rw [hp] at hpoint
    cases hpoint

theorem OnlySigns.executes {waiting : List SignRow} (h : d.OnlySigns waiting) {r : SignRow}
    (hp : d.point = .statement r) (fails : Bool) :
    ∃ rest, waiting = r :: rest ∧ (d.work insertSign fails).OnlySigns rest ∧
      (d.work insertSign fails).connection.store =
        if fails then d.connection.store else (insertSign r d.connection.store).getD d.connection.store := by
  rcases h.waiting with ⟨hpoint | hpoint, -⟩ | ⟨r', rest, rfl, hpoint, hqueue⟩
  · rw [hp] at hpoint
    cases hpoint
  · rw [hp] at hpoint
    cases hpoint
  · rw [hp] at hpoint
    cases hpoint
    refine ⟨rest, rfl, ?_⟩
    unfold Database.work
    rw [hp]
    simp only [send, finish, SqlConnection.directExecute]
    refine ⟨⟨h.tran, h.active, h.running, Or.inl ⟨Or.inl rfl, hqueue⟩⟩, ?_⟩
    cases fails with
    | true => rfl
    | false => cases insertSign r d.connection.store <;> rfl

/-- A step of the delay thread: nothing has been executed, or the first that waits. -/
theorem OnlySigns.work {waiting : List SignRow} (h : d.OnlySigns waiting) (fails : Bool) :
    (d.work insertSign fails).OnlySigns waiting ∧ (d.work insertSign fails).connection = d.connection ∨
    ∃ r rest, waiting = r :: rest ∧ (d.work insertSign fails).OnlySigns rest ∧
      (d.work insertSign fails).connection.store =
        if fails then d.connection.store else (insertSign r d.connection.store).getD d.connection.store := by
  rcases h.waiting with ⟨hp | hp, -⟩ | ⟨r, rest, -, hp, -⟩
  · exact Or.inl ⟨(h.loops hp fails).1, (h.loops hp fails).2.1⟩
  · exact Or.inl ⟨(h.dequeues hp fails).1, (h.dequeues hp fails).2.1⟩
  · obtain ⟨rest, hwaiting, hexec⟩ := h.executes hp fails
    exact Or.inr ⟨r, rest, hwaiting, hexec⟩

theorem OnlySigns.execute {waiting : List SignRow} (h : d.OnlySigns waiting) (r : SignRow) :
    (d.execute () r).OnlySigns (waiting ++ [r]) ∧ (d.execute () r).connection = d.connection := by
  unfold Database.execute
  rw [h.tran]
  simp only [delay, h.active, if_true]
  refine ⟨⟨h.tran, rfl, h.running, ?_⟩, trivial⟩
  rcases h.waiting with ⟨hpoint, hqueue⟩ | ⟨q, rest, rfl, hpoint, hqueue⟩
  · exact Or.inl ⟨hpoint, by simp [hqueue]⟩
  · exact Or.inr ⟨q, rest ++ [r], rfl, hpoint, by simp [hqueue]⟩

/-- A table with one row for each key, and what waits for it. -/
structure Kept (account : Nat → Nat) (d : Database Unit SignRow (List SignRow)) (waiting : List SignRow) : Prop where
  only : d.OnlySigns waiting
  stored : StoredSigns account d.connection.store
  known : ∀ r ∈ waiting, r.playerAccount = account r.playerguid

/-- **The delay thread adds no signer**, and loses none unless the connection refuses a statement. -/
theorem Kept.work {waiting : List SignRow} (h : d.Kept account waiting) (fails : Bool) :
    ∃ waiting', (d.work insertSign fails).Kept account waiting' ∧
      ∀ g, signers g ((d.work insertSign fails).connection.store ++ waiting') ⊆
        signers g (d.connection.store ++ waiting) := by
  rcases h.only.work fails with ⟨honly, hconn⟩ | ⟨r, rest, rfl, honly, hstore⟩
  · exact ⟨waiting, ⟨honly, hconn ▸ h.stored, h.known⟩, fun g => hconn ▸ Finset.Subset.refl _⟩
  · have hrest : ∀ q ∈ rest, q.playerAccount = account q.playerguid :=
      fun q hq => h.known q (List.mem_cons_of_mem _ hq)
    cases fails with
    | true =>
      have hstore : (d.work insertSign true).connection.store = d.connection.store := hstore
      refine ⟨rest, ⟨honly, hstore ▸ h.stored, hrest⟩, fun g => signers_mono ?_⟩
      rw [hstore]
      exact List.append_subset.2 ⟨List.subset_append_left _ _,
        List.Subset.trans (List.subset_cons_self _ _) (List.subset_append_right _ _)⟩
    | false =>
      have hstore : (d.work insertSign false).connection.store = (insertSign r d.connection.store).getD _ := hstore
      refine ⟨rest, ⟨honly, ?_, hrest⟩, fun g => ?_⟩
      · rw [hstore]
        exact h.stored.insertSign (h.known r List.mem_cons_self)
      · rw [hstore, signers_insertSign]

theorem Kept.run {waiting : List SignRow} (h : d.Kept account waiting) (works : List Bool) :
    ∃ waiting', (Transition.run (fun d f => d.work insertSign f) d works).Kept account waiting' ∧
      ∀ g, signers g ((Transition.run (fun d f => d.work insertSign f) d works).connection.store ++ waiting') ⊆
        signers g (d.connection.store ++ waiting) := by
  induction works generalizing d waiting with
  | nil => exact ⟨waiting, h, fun g => Finset.Subset.refl _⟩
  | cons f works ih =>
    obtain ⟨waiting', h', hsub⟩ := h.work f
    obtain ⟨waiting'', h'', hsub'⟩ := ih h'
    exact ⟨waiting'', h'', fun g => (hsub' g).trans (hsub g)⟩

theorem OnlySigns.next {r : SignRow} {rest : List SignRow} (h : d.OnlySigns (r :: rest)) :
    ∃ works, (Transition.run (fun d f => d.work insertSign f) d works).OnlySigns rest ∧
      (Transition.run (fun d f => d.work insertSign f) d works).connection.store =
        (insertSign r d.connection.store).getD d.connection.store := by
  rcases h.waiting with ⟨hp | hp, -⟩ | ⟨r', rest', heq, hp, -⟩
  · obtain ⟨h₁, hc₁, hp₁⟩ := h.loops hp false
    obtain ⟨h₂, hc₂, hp₂⟩ := h₁.dequeues hp₁ false
    obtain ⟨rest', heq, h₃, hs⟩ := h₂.executes (hp₂ r rest rfl) false
    cases heq
    rw [hc₂, hc₁] at hs
    exact ⟨[false, false, false], h₃, hs⟩
  · obtain ⟨h₁, hc₁, hp₁⟩ := h.dequeues hp false
    obtain ⟨rest', heq, h₂, hs⟩ := h₁.executes (hp₁ r rest rfl) false
    cases heq
    rw [hc₁] at hs
    exact ⟨[false, false], h₂, hs⟩
  · cases heq
    obtain ⟨rest', heq, h₁, hs⟩ := h.executes hp false
    cases heq
    exact ⟨[false], h₁, hs⟩

/-- **The delay thread gets through the queue**, and then the table has all signers. -/
theorem OnlySigns.drained {waiting : List SignRow} (h : d.OnlySigns waiting) :
    ∃ works, ∀ g, signers g (Transition.run (fun d f => d.work insertSign f) d works).connection.store =
      signers g (d.connection.store ++ waiting) := by
  induction waiting generalizing d with
  | nil => exact ⟨[], fun g => by rw [List.append_nil]; rfl⟩
  | cons r rest ih =>
    obtain ⟨works, h', hstore⟩ := h.next
    obtain ⟨works', hall⟩ := ih h'
    refine ⟨works ++ works', fun g => ?_⟩
    rw [Transition.run_append, hall, hstore, signers_insertSign]

end Database

/-! ## Requests -/

namespace PetitionSigns

/-- **The condition**: when a signature is handed over, the petition's signers have room for one more and nobody of
that account is among them; or the player himself is, and his row is there already. -/
def UpToDate (w : PetitionRealm) (x : PetitionSigns) : SignStep → Prop
  | .insert =>
    match x.point with
    | .inserting s g p =>
      s.guidLow ∈ signers g (x.table ++ x.waiting) ∨
        (signers g (x.table ++ x.waiting)).card < p.type ∧
          ∀ other ∈ signers g (x.table ++ x.waiting), w.accountId other ≠ w.accountId s.guidLow
    | _ => True
  | _ => True

/-- What the handler knows. -/
def Asked (w : PetitionRealm) : SignPoint → Prop
  | .idle => True
  | .checking s g p => w.petitions g = some p ∧ p.ownerguid ≠ s.guidLow
  | .inserting s g p => w.petitions g = some p ∧ p.ownerguid ≠ s.guidLow

structure Sound (w : PetitionRealm) (x : PetitionSigns) (waiting : List SignRow) : Prop where
  kept : x.db.Kept w.accountId waiting
  asked : Asked w x.point

def AllFair (w : PetitionRealm) (rows : List SignRow) : Prop :=
  ∀ g p, w.petitions g = some p → FairSigners w.accountId p (signers g rows)

variable {x : PetitionSigns}

theorem waiting_eq {waiting : List SignRow} (h : x.db.OnlySigns waiting) : x.waiting = waiting := by
  have hflat : ∀ rows : List SignRow, (rows.map SqlOperation.statement).flatMap SqlOperation.statements = rows := by
    intro rows
    induction rows with
    | nil => rfl
    | cons r rows ih =>
      rw [List.map_cons, List.flatMap_cons, ih]
      rfl
  unfold PetitionSigns.waiting
  rcases h.waiting with ⟨hp | hp, hqueue⟩ | ⟨r, rest, rfl, hp, hqueue⟩
  · rw [hp, hqueue, hflat]
    rfl
  · rw [hp, hqueue, hflat]
    rfl
  · rw [hp, hqueue, hflat]
    rfl

theorem Sound.request {waiting : List SignRow} (h : x.Sound w waiting) (s : Signer) (g : Nat) (fails : Bool) :
    (x.request w s g fails).db = x.db ∧ Asked w (x.request w s g fails).point := by
  unfold PetitionSigns.request
  split
  · next p hpoint hp =>
    split
    · exact ⟨rfl, h.asked⟩
    · next hrefused =>
      refine ⟨rfl, ?_, ?_⟩
      · cases fails with
        | true => cases hp
        | false => exact hp
      · intro howner
        unfold PetitionRealm.refusal PetitionRealm.refusesOwner at hrefused
        rw [if_pos howner] at hrefused
        cases hrefused
  · exact ⟨rfl, h.asked⟩

theorem Sound.insert {waiting : List SignRow} (h : x.Sound w waiting) {s : Signer} {g : Nat} {p : Petition}
    (hpoint : x.point = .inserting s g p) :
    let row : SignRow := ⟨p.ownerguid, g, s.guidLow, w.accountId s.guidLow⟩
    (x.step w .insert).Sound w (waiting ++ [row]) ∧ (x.step w .insert).table = x.table := by
  change (x.handOver w).Sound w _ ∧ (x.handOver w).table = x.table
  unfold PetitionSigns.handOver
  rw [hpoint]
  obtain ⟨honly, hconn⟩ := h.kept.only.execute ⟨p.ownerguid, g, s.guidLow, w.accountId s.guidLow⟩
  refine ⟨⟨⟨honly, hconn ▸ h.kept.stored, fun r hr => ?_⟩, trivial⟩, congrArg SqlConnection.store hconn⟩
  rcases List.mem_append.1 hr with hr | hr
  · exact h.kept.known r hr
  · cases List.mem_singleton.1 hr
    rfl

theorem Sound.step {waiting : List SignRow} (h : x.Sound w waiting) {e : SignStep}
    (hno : e = .insert → ∀ s g p, x.point ≠ .inserting s g p) :
    ∃ waiting', (x.step w e).Sound w waiting' ∧
      ∀ g, signers g ((x.step w e).table ++ waiting') ⊆ signers g (x.table ++ waiting) := by
  have hsame : ∀ {y : PetitionSigns}, y.db = x.db → Asked w y.point → ∃ waiting', y.Sound w waiting' ∧
      ∀ g, signers g (y.table ++ waiting') ⊆ signers g (x.table ++ waiting) := by
    intro y hdb hasked
    refine ⟨waiting, ⟨hdb ▸ h.kept, hasked⟩, fun g => ?_⟩
    unfold PetitionSigns.table
    rw [hdb]
  cases e with
  | request s g fails => exact hsame (h.request s g fails).1 (h.request s g fails).2
  | check fails =>
    have hcheck : (x.check w fails).db = x.db ∧ Asked w (x.check w fails).point := by
      unfold PetitionSigns.check
      split
      · next s g p hpoint =>
        have hasked := h.asked
        rw [hpoint] at hasked
        refine ⟨rfl, ?_⟩
        dsimp only
        split
        · trivial
        · exact hasked
      · exact ⟨rfl, h.asked⟩
    exact hsame hcheck.1 hcheck.2
  | insert =>
    have hidle : x.step w .insert = x := by
      change x.handOver w = x
      unfold PetitionSigns.handOver
      split
      · next s g p hpoint => exact absurd hpoint (hno rfl s g p)
      · rfl
    rw [hidle]
    exact hsame rfl h.asked
  | work fails =>
    obtain ⟨waiting', hkept, hsub⟩ := h.kept.work fails
    exact ⟨waiting', ⟨hkept, h.asked⟩, hsub⟩

theorem run_works (works : List Bool) :
    Transition.run (PetitionSigns.step w) x (works.map .work) =
      { x with db := Transition.run (fun d f => d.work insertSign f) x.db works } := by
  induction works generalizing x with
  | nil => rfl
  | cons f works ih => exact ih

/-- The table is lawful whatever the delay thread does if and only if all signers are fair. -/
theorem Sound.lawful_iff {waiting : List SignRow} (h : x.Sound w waiting) :
    (∀ works : List Bool, LawfulSignatures w (Transition.run (PetitionSigns.step w) x (works.map .work)).table) ↔
      AllFair w (x.table ++ waiting) := by
  constructor
  · intro hlawful g p hp
    obtain ⟨works, hall⟩ := h.kept.only.drained
    obtain ⟨waiting', hkept, -⟩ := h.kept.run works
    have hl := hlawful works
    rw [run_works] at hl
    have hfair := (fair_iff_of_stored (p := p) (g := g) hkept.stored).2
      ⟨hl.count g p hp, hl.accounts g p hp, hl.owner g p hp⟩
    rw [hall] at hfair
    exact hfair
  · intro hfair works
    obtain ⟨waiting', hkept, hsub⟩ := h.kept.run works
    rw [run_works]
    have hall : ∀ g p, w.petitions g = some p → _ := fun g p hp => (fair_iff_of_stored hkept.stored).1
      ((hfair g p hp).mono ((signers_mono (List.subset_append_left _ waiting')).trans (hsub g)))
    exact ⟨fun g p hp => (hall g p hp).1, fun g p hp => (hall g p hp).2.1, fun g p hp => (hall g p hp).2.2⟩

/-- **A step is as fair as it is up to date.** -/
theorem step_fair {waiting : List SignRow} (h : x.Sound w waiting) (hfair : AllFair w (x.table ++ waiting))
    (e : SignStep) :
    ∃ waiting', (x.step w e).Sound w waiting' ∧
      (AllFair w ((x.step w e).table ++ waiting') ↔ UpToDate w x e) := by
  by_cases hins : ∃ s g p, e = .insert ∧ x.point = .inserting s g p
  · obtain ⟨s, g, p, rfl, hpoint⟩ := hins
    obtain ⟨hsound, htable⟩ := h.insert hpoint
    have hasked := h.asked
    rw [hpoint] at hasked
    obtain ⟨hp, hne⟩ := hasked
    refine ⟨_, hsound, ?_⟩
    have hinsert := fairSigners_insert (hfair g p hp) hne
    unfold UpToDate
    rw [hpoint, waiting_eq h.kept.only, htable, ← List.append_assoc]
    dsimp only
    rw [← hinsert]
    constructor
    · intro hall
      have hg := hall g p hp
      rwa [signers_append_singleton, if_pos rfl] at hg
    · intro hg g' p' hp'
      rw [signers_append_singleton]
      split
      · next heq =>
        cases heq
        rw [hp] at hp'
        cases hp'
        exact hg
      · exact hfair g' p' hp'
  · have hno : e = .insert → ∀ s g p, x.point ≠ .inserting s g p :=
      fun he s g p hpoint => hins ⟨s, g, p, he, hpoint⟩
    obtain ⟨waiting', hsound, hsub⟩ := h.step hno
    refine ⟨waiting', hsound, fun _ => ?_, fun _ g p hp => (hfair g p hp).mono (hsub g)⟩
    unfold UpToDate
    split
    · split
      · next s g p hpoint => exact absurd hpoint (hno rfl s g p)
      · trivial
    · trivial

/-! ## Result -/

/-- **The limits of petitions.**  From any table within the limits and in every run, whatever the delay thread still
does, the table is within them after every step, if and only if every signature handed over is up to date. -/
theorem signs_limited (w : PetitionRealm) (rows : List SignRow) (hstored : StoredSigns w.accountId rows)
    (hlawful : LawfulSignatures w rows) (es : List SignStep) :
    Transition.Along (PetitionSigns.step w) (fun x e => ∀ works : List Bool,
        LawfulSignatures w (Transition.run (PetitionSigns.step w) (x.step w e) (works.map .work)).table)
      (start rows) es ↔
    Transition.Along (PetitionSigns.step w) (UpToDate w) (start rows) es := by
  let I : PetitionSigns → Prop := fun x => ∃ waiting, x.Sound w waiting ∧ AllFair w (x.table ++ waiting)
  have hstart : I (start rows) := by
    refine ⟨[], ⟨⟨⟨rfl, rfl, rfl, Or.inl ⟨Or.inl rfl, rfl⟩⟩, hstored, nofun⟩, trivial⟩, fun g p hp => ?_⟩
    rw [List.append_nil]
    exact (fair_iff_of_stored hstored).2 ⟨hlawful.count g p hp, hlawful.accounts g p hp, hlawful.owner g p hp⟩
  refine Transition.along_iff_of_invariant (I := I) ?_ ?_ hstart
  · rintro x e ⟨waiting, h, hfair⟩ he
    obtain ⟨waiting', hsound, hiff⟩ := step_fair h hfair e
    exact ⟨waiting', hsound, hiff.2 he⟩
  · rintro x e ⟨waiting, h, hfair⟩
    obtain ⟨waiting', hsound, hiff⟩ := step_fair h hfair e
    exact hsound.lawful_iff.trans hiff

/-! ## Three signatures for two -/

/-- A petition for a team of two by player 1; every player has an account of his own. -/
def sampleRealm : PetitionRealm where
  petitions := fun g => if g = 7 then some ⟨1, 2⟩ else none
  accountId := fun pl => 100 + pl
  playerTeam := fun _ => 469
  allowTwoSideInteractionGuild := false
  maxPlayerLevel := 70

def sampleSigner (guidLow : Nat) : Signer := ⟨guidLow, 469, 70, fun _ => 0, 0, 0, 0⟩

def sampleSign (guidLow : Nat) : List SignStep := [.request (sampleSigner guidLow) 7 false, .check false, .insert]

theorem signs_limited_two :
    Transition.Along (PetitionSigns.step sampleRealm) (fun x e => ∀ works : List Bool, LawfulSignatures sampleRealm
        (Transition.run (PetitionSigns.step sampleRealm) (x.step sampleRealm e) (works.map .work)).table)
      (start []) (sampleSign 2 ++ sampleSign 3) ↔
    Transition.Along (PetitionSigns.step sampleRealm) (UpToDate sampleRealm) (start [])
      (sampleSign 2 ++ sampleSign 3) :=
  signs_limited sampleRealm [] ⟨List.nodup_nil, nofun⟩ ⟨fun _ _ _ => Nat.zero_le _, fun _ _ _ => List.nodup_nil, nofun⟩
    (sampleSign 2 ++ sampleSign 3)

/-- Three players sign before the delay thread comes to the first signature. -/
theorem third_signs : ¬ ∀ (w : PetitionRealm) (rows : List SignRow) (es : List SignStep), StoredSigns w.accountId rows →
    LawfulSignatures w rows → LawfulSignatures w (Transition.run (PetitionSigns.step w) (start rows) es).table := by
  intro h
  have hlawful := h sampleRealm [] (sampleSign 2 ++ sampleSign 3 ++ sampleSign 4 ++ List.replicate 9 (.work false))
    ⟨List.nodup_nil, nofun⟩ ⟨fun _ _ _ => Nat.zero_le _, fun _ _ _ => List.nodup_nil, nofun⟩
  exact absurd (hlawful.count 7 ⟨1, 2⟩ rfl) (by decide)

end PetitionSigns

end BlizzLike
