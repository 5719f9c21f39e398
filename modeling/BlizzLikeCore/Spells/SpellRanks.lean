import BlizzLikeCore.Money
import Mathlib.Data.List.Flatten
import Mathlib.Data.List.Nodup
import Mathlib.Logic.Function.Iterate

/-!
# Spell ranks

`LoadSpellRanks` reads the chains of ranks from the rows of `spell_ranks`, in the order of their first
spell and rank.  A chain whose spells exist and whose ranks count up from 1 is written into
`mSpellChains`, a node for each of its spells.  What the nodes tell of each other is right exactly if
every chain of which a spell is left is left whole (`loadSpellRanks_sound_iff`), which the keys of the
table see to.

    nodes_iff    : the node of a spell is that of its last place in the last chain that has it
    whole_of_sound : right nodes lead through all of their chain
    sound_of_whole : the nodes of a chain that is left whole are right
-/

namespace BlizzLike.SpellRanks

/-! ## Loading -/

/-- A row of `spell_ranks`. -/
structure RankRow where
  first_spell_id : UInt32
  spell_id : UInt32
  rank : UInt32

/-- The order in which the rows are read. -/
def RankRow.Before (a b : RankRow) : Prop :=
  a.first_spell_id < b.first_spell_id ∨ a.first_spell_id = b.first_spell_id ∧ a.rank ≤ b.rank

instance (a b : RankRow) : Decidable (a.Before b) := inferInstanceAs (Decidable (_ ∨ _))

structure SpellChainNode where
  prev : Nat
  next : Nat
  first : Nat
  last : Nat
  rank : Nat
  deriving DecidableEq, Repr

abbrev SpellChainMap := Nat → Option SpellChainNode

/-- `sSpellStore`: the level of a spell that exists. -/
abbrev SpellStore := Nat → Option Nat

/-- The loop that fills one chain, with the rows that are left. -/
def fillChain (currentSpell lastSpell : Int) : List RankRow → Int × List (Nat × Nat) × List RankRow
  | [] => (lastSpell, [], [])
  | row :: rows =>
    if currentSpell = lastSpell then
      let currentSpell := toInt32 row.first_spell_id.toNat
      let lastSpell := if lastSpell = -1 then currentSpell else lastSpell
      if currentSpell = lastSpell then
        let filled := fillChain currentSpell lastSpell rows
        (filled.1, (row.spell_id.toNat, row.rank.toNat) :: filled.2.1, filled.2.2)
      else (lastSpell, [], row :: rows)
    else (lastSpell, [], row :: rows)

/-- The chains of the rows; every turn takes a row at least. -/
def readChains : Nat → List RankRow → List (Nat × List (Nat × Nat))
  | 0, _ => []
  | _ + 1, [] => []
  | n + 1, row :: rows =>
    let filled := fillChain (-1) (-1) (row :: rows)
    (u32OfInt filled.1, filled.2.1) :: readChains n filled.2.2

/-- The check of the spells in a chain, after those up to `curRank`. -/
def validFrom (store : SpellStore) : Nat → List (Nat × Nat) → Bool
  | _, [] => true
  | curRank, (spell, rank) :: rest =>
    (store spell).isSome && (rank == curRank + 1 && validFrom store (curRank + 1) rest)

/-- A chain that is inserted. -/
def accepts (store : SpellStore) (chain : Nat × List (Nat × Nat)) : Bool :=
  (store chain.1).isSome && (decide (2 ≤ chain.2.length) && validFrom store 0 chain.2)

/-- The loop that inserts a chain. -/
def insertFrom (first last prevRank : Nat) (chains : SpellChainMap) : List (Nat × Nat) → SpellChainMap
  | [] => chains
  | (addedSpell, rank) :: rest =>
    insertFrom first last addedSpell
      (Function.update chains addedSpell
        (some ⟨prevRank, (rest.head?.map Prod.fst).getD 0, first, last, rank % 256⟩)) rest

def loadChain (store : SpellStore) (chains : SpellChainMap) (chain : Nat × List (Nat × Nat)) : SpellChainMap :=
  if accepts store chain then
    insertFrom chain.1 ((chain.2.getLast?.map Prod.fst).getD 0) 0 chains chain.2
  else chains

def loadSpellRanks (store : SpellStore) (rows : List RankRow) : SpellChainMap :=
  (readChains rows.length rows).foldl (loadChain store) fun _ => none

/-! ## Walking -/

def getPrevSpellInChain (chains : SpellChainMap) (spell_id : Nat) : Nat :=
  match chains spell_id with
  | some node => node.prev
  | none => 0

/-- The `next` of a spell's node. -/
def getNextSpellInChain (chains : SpellChainMap) (spell_id : Nat) : Nat :=
  match chains spell_id with
  | some node => node.next
  | none => 0

/-- The loop of `SelectAuraRankForPlayerLevel` for some turns: the spell it finds, if it has ended. -/
def selectAuraRank (store : SpellStore) (chains : SpellChainMap) (playerLevel : Nat) : Nat → Nat → Option (Option Nat)
  | 0, _ => none
  | n + 1, nextSpellId =>
    if nextSpellId = 0 then some none
    else match store nextSpellId with
      | none => some none
      | some spellLevel =>
        if u32 (playerLevel + 10) ≥ spellLevel then some (some nextSpellId)
        else selectAuraRank store chains playerLevel n (getPrevSpellInChain chains nextSpellId)

/-- Nodes that tell the truth of each other. -/
structure Consistent (chains : SpellChainMap) : Prop where
  prev : ∀ s n, chains s = some n → n.prev ≠ 0 →
    ∃ p, chains n.prev = some p ∧ p.next = s ∧ n.rank = p.rank + 1 ∧ p.first = n.first ∧ p.last = n.last
  next : ∀ s n, chains s = some n → n.next ≠ 0 →
    ∃ q, chains n.next = some q ∧ q.first = n.first ∧ q.last = n.last
  prev_zero : ∀ s n, chains s = some n → (n.prev = 0 ↔ n.rank = 1)
  next_zero : ∀ s n, chains s = some n → (n.next = 0 ↔ n.last = s)

/-- Nodes that are consistent, and walks along them that end. -/
structure Sound (store : SpellStore) (chains : SpellChainMap) : Prop where
  consistent : Consistent chains
  prev_ends : ∀ s, ∃ n, (getPrevSpellInChain chains)^[n] s = 0
  next_ends : ∀ s, ∃ n, (getNextSpellInChain chains)^[n] s = 0
  select_ends : ∀ playerLevel s, ∃ n, (selectAuraRank store chains playerLevel n s).isSome = true

/-! ## Chains

An inserted chain, with its spells in the order of their ranks. -/

structure Chain where
  first : Nat
  spells : List Nat

namespace Chain

variable (c : Chain)

/-- The node that is written for the spell at a place, counted from 0. -/
def nodeAt (i : Nat) : SpellChainNode where
  prev := if i = 0 then 0 else c.spells.getD (i - 1) 0
  next := c.spells.getD (i + 1) 0
  first := c.first
  last := c.spells.getLast?.getD 0
  rank := (i + 1) % 256

/-- The last place of a spell. -/
def LastAt (s i : Nat) : Prop := c.spells[i]? = some s ∧ ∀ j, i < j → c.spells[j]? ≠ some s

/-- What `insertFrom` does with the spells of a chain from a place on. -/
def link (chains : SpellChainMap) : Nat → List Nat → SpellChainMap
  | _, [] => chains
  | i, s :: rest => link (Function.update chains s (some (c.nodeAt i))) (i + 1) rest

variable {c}

theorem link_spec {chains : SpellChainMap} {i : Nat} {rest : List Nat} (hrest : c.spells.drop i = rest) (s : Nat)
    (n : SpellChainNode) :
    c.link chains i rest s = some n ↔
      (∃ k, i ≤ k ∧ c.LastAt s k ∧ n = c.nodeAt k) ∨
        (∀ k, i ≤ k → c.spells[k]? ≠ some s) ∧ chains s = some n := by
  induction rest generalizing chains i with
  | nil =>
    have hlen : c.spells.length ≤ i := List.drop_eq_nil_iff.1 hrest
    have hnone : ∀ k, i ≤ k → c.spells[k]? = none := fun k hk => List.getElem?_eq_none (by omega)
    constructor
    · intro h
      exact .inr ⟨fun k hk heq => (Option.some_ne_none s (heq.symm.trans (hnone k hk))).elim, h⟩
    · rintro (⟨k, hk, ⟨hlast, -⟩, -⟩ | ⟨-, h⟩)
      · exact nomatch (hnone k hk).symm.trans hlast
      · exact h
  | cons x rest ih =>
    have hx : c.spells[i]? = some x := by
      rw [← List.head?_drop, hrest]
      rfl
    have hrest' : c.spells.drop (i + 1) = rest := by
      rw [← List.drop_drop, hrest]
      rfl
    unfold link
    rw [ih hrest']
    constructor
    · rintro (⟨k, hk, hlast, rfl⟩ | ⟨hnot, h⟩)
      · exact .inl ⟨k, by omega, hlast, rfl⟩
      · by_cases hs : s = x
        · subst hs
          rw [Function.update_self] at h
          exact .inl ⟨i, Nat.le_refl i, ⟨hx, fun j hj => hnot j hj⟩, (Option.some.inj h).symm⟩
        · rw [Function.update_of_ne hs] at h
          refine .inr ⟨fun k hk heq => ?_, h⟩
          rcases Nat.eq_or_lt_of_le hk with rfl | hlt
          · exact hs (Option.some.inj (heq.symm.trans hx))
          · exact hnot k hlt heq
    · rintro (⟨k, hk, hlast, rfl⟩ | ⟨hnot, h⟩)
      · rcases Nat.eq_or_lt_of_le hk with rfl | hlt
        · obtain rfl : s = x := Option.some.inj (hlast.1.symm.trans hx)
          exact .inr ⟨fun k hk => hlast.2 k hk, Function.update_self ..⟩
        · exact .inl ⟨k, hlt, hlast, rfl⟩
      · refine .inr ⟨fun k hk => hnot k (by omega), ?_⟩
        rwa [Function.update_of_ne]
        rintro rfl
        exact hnot i (Nat.le_refl i) hx

theorem exists_lastAt {s : Nat} (h : s ∈ c.spells) : ∃ i, c.LastAt s i := by
  by_contra hnone
  have hmore : ∀ n : Nat, ∃ i : Nat, n ≤ i ∧ c.spells[i]? = some s := by
    intro n
    induction n with
    | zero =>
      obtain ⟨i, hi⟩ := List.mem_iff_getElem?.1 h
      exact ⟨i, Nat.zero_le i, hi⟩
    | succ n ih =>
      obtain ⟨i, hn, hi⟩ := ih
      by_contra hnot
      exact hnone ⟨i, hi, fun j hj heq => hnot ⟨j, by omega, heq⟩⟩
  obtain ⟨i, hlen, hi⟩ := hmore c.spells.length
  rw [List.getElem?_eq_none hlen] at hi
  exact nomatch hi

theorem LastAt.mem {s i : Nat} (h : c.LastAt s i) : s ∈ c.spells := List.mem_of_getElem? h.1

end Chain

/-- The last chain that has a spell. -/
def Owner (chains : List Chain) (c : Chain) (s : Nat) : Prop :=
  ∃ before after, chains = before ++ c :: after ∧ s ∈ c.spells ∧ ∀ d ∈ after, s ∉ d.spells

/-- The map of some chains. -/
def nodesOf (chains : List Chain) : SpellChainMap := chains.foldl (fun map c => c.link map 0 c.spells) fun _ => none

/-- **The node of a spell** is that of its last place in the last chain that has it. -/
theorem nodes_iff (chains : List Chain) (s : Nat) (n : SpellChainNode) :
    nodesOf chains s = some n ↔ ∃ c i, Owner chains c s ∧ c.LastAt s i ∧ n = c.nodeAt i := by
  suffices h : ∀ map : SpellChainMap, chains.foldl (fun map c => c.link map 0 c.spells) map s = some n ↔
      (∃ c i, Owner chains c s ∧ c.LastAt s i ∧ n = c.nodeAt i) ∨
        (∀ c ∈ chains, s ∉ c.spells) ∧ map s = some n by
    unfold nodesOf
    rw [h]
    simp
  induction chains with
  | nil =>
    intro map
    constructor
    · intro h
      exact .inr ⟨by simp, h⟩
    · rintro (⟨c, i, ⟨before, after, heq, -⟩, -⟩ | ⟨-, h⟩)
      · simp at heq
      · exact h
  | cons d chains ih =>
    intro map
    rw [List.foldl_cons, ih, Chain.link_spec (by rfl)]
    constructor
    · rintro (⟨c, i, ⟨before, after, rfl, hmem, hafter⟩, hlast, rfl⟩ | ⟨hnot, ⟨k, -, hlast, rfl⟩ | ⟨hd, h⟩⟩)
      · exact .inl ⟨c, i, ⟨d :: before, after, rfl, hmem, hafter⟩, hlast, rfl⟩
      · exact .inl ⟨d, k, ⟨[], chains, rfl, hlast.mem, hnot⟩, hlast, rfl⟩
      · refine .inr ⟨List.forall_mem_cons.2 ⟨fun hmem => ?_, hnot⟩, h⟩
        obtain ⟨k, hk⟩ := List.mem_iff_getElem?.1 hmem
        exact hd k (Nat.zero_le k) hk
    · rintro (⟨c, i, ⟨before, after, heq, hmem, hafter⟩, hlast, rfl⟩ | ⟨hnot, h⟩)
      · cases before with
        | nil =>
          obtain ⟨rfl, rfl⟩ := List.cons.inj heq
          exact .inr ⟨hafter, .inl ⟨i, Nat.zero_le i, hlast, rfl⟩⟩
        | cons b before =>
          obtain ⟨rfl, rfl⟩ := List.cons.inj heq
          exact .inl ⟨c, i, ⟨before, after, rfl, hmem, hafter⟩, hlast, rfl⟩
      · obtain ⟨hd, hrest⟩ := List.forall_mem_cons.1 hnot
        exact .inr ⟨hrest, .inr ⟨fun k _ heq => hd (List.mem_of_getElem? heq), h⟩⟩

/-! ## Whole chains -/

/-- Chains as they are inserted: each first spell has one, and 0 stands for no spell. -/
structure Proper (chains : List Chain) : Prop where
  first : (chains.map Chain.first).Nodup
  nonzero : ∀ c ∈ chains, ∀ s ∈ c.spells, s ≠ 0

/-- Each chain of which a spell is left is left whole, and has no spell twice and no rank that a
`uint8` cannot tell. -/
def Whole (chains : List Chain) : Prop :=
  ∀ c ∈ chains, (∃ s, Owner chains c s) →
    (∀ s ∈ c.spells, Owner chains c s) ∧ c.spells.Nodup ∧ c.spells.length ≤ 255

section

variable {chains : List Chain} {c d : Chain} {s : Nat}

theorem Owner.mem (h : Owner chains c s) : c ∈ chains := by
  obtain ⟨before, after, rfl, -⟩ := h
  exact List.mem_append_right _ List.mem_cons_self

theorem Owner.mem_spells (h : Owner chains c s) : s ∈ c.spells := by
  obtain ⟨-, -, -, hmem, -⟩ := h
  exact hmem

theorem Proper.eq_of_first (h : Proper chains) (hc : c ∈ chains) (hd : d ∈ chains) (heq : c.first = d.first) :
    c = d :=
  List.inj_on_of_nodup_map h.first hc hd heq

theorem Proper.owner_of_first (h : Proper chains) (hc : c ∈ chains) {n : SpellChainNode}
    (hn : nodesOf chains s = some n) (hfirst : n.first = c.first) :
    Owner chains c s ∧ ∃ i, c.LastAt s i ∧ n = c.nodeAt i := by
  obtain ⟨d, i, howner, hlast, rfl⟩ := (nodes_iff chains s n).1 hn
  obtain rfl : d = c := h.eq_of_first howner.mem hc hfirst
  exact ⟨howner, i, hlast, rfl⟩

/-! ### From the nodes to the chain -/

/-- **The walk up** from a spell of a chain comes to its last place. -/
theorem Proper.reaches_last (h : Proper chains) (hsound : Consistent (nodesOf chains)) {k : Nat} :
    ∀ {s i : Nat}, Owner chains c s → c.LastAt s i → i + k + 1 = c.spells.length →
      ∃ t, Owner chains c t ∧ c.LastAt t (c.spells.length - 1) := by
  induction k using Nat.strongRecOn with
  | ind k ih =>
    intro s i howner hlast hlen
    rcases Nat.eq_zero_or_pos k with rfl | hk
    · exact ⟨s, howner, by rwa [← hlen]⟩
    · obtain ⟨t, ht⟩ : ∃ t, c.spells[i + 1]? = some t := ⟨_, List.getElem?_eq_getElem (by omega)⟩
      have hnext : (c.nodeAt i).next = t := by simp [Chain.nodeAt, List.getD, ht]
      have hnonzero : t ≠ 0 := h.nonzero c howner.mem t (List.mem_of_getElem? ht)
      obtain ⟨q, hq, hfirst, -⟩ := hsound.next s (c.nodeAt i) ((nodes_iff ..).2 ⟨c, i, howner, hlast, rfl⟩)
        (by rwa [hnext])
      rw [hnext] at hq
      obtain ⟨howner', m, hlast', -⟩ := h.owner_of_first howner.mem hq hfirst
      have hm : i + 1 ≤ m := by
        by_contra hlt
        exact hlast'.2 (i + 1) (by omega) ht
      have hmlt : m < c.spells.length := (List.getElem?_eq_some_iff.1 hlast'.1).1
      exact ih (c.spells.length - 1 - m) (by omega) howner' hlast' (by omega)

/-- **The walk down** from there is along every place. -/
theorem Proper.down (h : Proper chains) (hsound : Consistent (nodesOf chains)) {i t s : Nat} (howner : Owner chains c t)
    (hlast : c.LastAt t (i + 1)) (hs : c.spells[i]? = some s) :
    Owner chains c s ∧ c.LastAt s i ∧ (i + 2) % 256 = (i + 1) % 256 + 1 := by
  have hprev : (c.nodeAt (i + 1)).prev = s := by simp [Chain.nodeAt, List.getD, hs]
  have hnonzero : s ≠ 0 := h.nonzero c howner.mem s (List.mem_of_getElem? hs)
  obtain ⟨p, hp, hnext, hrank, hfirst, -⟩ := hsound.prev t (c.nodeAt (i + 1))
    ((nodes_iff ..).2 ⟨c, i + 1, howner, hlast, rfl⟩) (by rwa [hprev])
  rw [hprev] at hp
  obtain ⟨howner', m, hlast', rfl⟩ := h.owner_of_first howner.mem hp hfirst
  have hmi : m = i := by
    have hle : i ≤ m := by
      by_contra hlt
      exact hlast'.2 i (by omega) hs
    have ht : c.spells[m + 1]? = some t := by
      have hnext' : (c.spells[m + 1]?).getD 0 = t := hnext
      cases hm : c.spells[m + 1]? with
      | none =>
        rw [hm] at hnext'
        exact absurd hnext'.symm (h.nonzero c howner.mem t howner.mem_spells)
      | some t' =>
        rw [hm] at hnext'
        exact congrArg some hnext'
    by_contra hne
    exact hlast.2 (m + 1) (by omega) ht
  subst hmi
  exact ⟨howner', hlast', hrank⟩

/-- **Consistent nodes** are those of whole chains. -/
theorem Proper.whole_of_consistent (h : Proper chains) (hsound : Consistent (nodesOf chains)) : Whole chains := by
  rintro c - ⟨s0, howner0⟩
  obtain ⟨i0, hlast0⟩ := Chain.exists_lastAt howner0.mem_spells
  have hi0 : i0 < c.spells.length := (List.getElem?_eq_some_iff.1 hlast0.1).1
  obtain ⟨t, hownert, hlastt⟩ := h.reaches_last hsound (k := c.spells.length - 1 - i0) howner0 hlast0 (by omega)
  have hall : ∀ k i, i + k + 1 = c.spells.length → ∀ s, c.spells[i]? = some s → Owner chains c s ∧ c.LastAt s i := by
    intro k
    induction k with
    | zero =>
      intro i hi s hs
      obtain rfl : i = c.spells.length - 1 := by omega
      obtain rfl : t = s := Option.some.inj (hlastt.1.symm.trans hs)
      exact ⟨hownert, hlastt⟩
    | succ k ih =>
      intro i hi s hs
      obtain ⟨t', ht'⟩ : ∃ t', c.spells[i + 1]? = some t' := ⟨_, List.getElem?_eq_getElem (by omega)⟩
      obtain ⟨howner, hlast⟩ := ih (i + 1) (by omega) t' ht'
      obtain ⟨howner', hlast', -⟩ := h.down hsound howner hlast hs
      exact ⟨howner', hlast'⟩
  have hplace : ∀ i s, c.spells[i]? = some s → Owner chains c s ∧ c.LastAt s i := by
    intro i s hs
    have hi := (List.getElem?_eq_some_iff.1 hs).1
    exact hall (c.spells.length - 1 - i) i (by omega) s hs
  refine ⟨fun s hs => ?_, ?_, ?_⟩
  · obtain ⟨i, hi⟩ := List.mem_iff_getElem?.1 hs
    exact (hplace i s hi).1
  · rw [List.nodup_iff_getElem?_ne_getElem?]
    intro i j hij hj heq
    exact (hplace i _ (List.getElem?_eq_getElem (by omega))).2.2 j hij
      (heq.symm.trans (List.getElem?_eq_getElem (by omega)))
  · by_contra hlong
    obtain ⟨t', ht'⟩ : ∃ t', c.spells[255]? = some t' := ⟨_, List.getElem?_eq_getElem (by omega)⟩
    obtain ⟨s', hs'⟩ : ∃ s', c.spells[254]? = some s' := ⟨_, List.getElem?_eq_getElem (by omega)⟩
    obtain ⟨howner, hlast⟩ := hplace 255 t' ht'
    obtain ⟨-, -, hrank⟩ := h.down hsound howner hlast hs'
    omega

/-! ### From the chain to the nodes -/

theorem lastAt_of_nodup (hnodup : c.spells.Nodup) {i : Nat} (h : c.spells[i]? = some s) : c.LastAt s i := by
  refine ⟨h, fun j hj heq => ?_⟩
  obtain ⟨hlt, -⟩ := List.getElem?_eq_some_iff.1 heq
  exact (List.nodup_iff_getElem?_ne_getElem?.1 hnodup) i j hj hlt (h.trans heq.symm)

theorem Whole.node (h : Whole chains) (howner : Owner chains c s) {i t : Nat} (ht : c.spells[i]? = some t) :
    nodesOf chains t = some (c.nodeAt i) := by
  obtain ⟨howners, hnodup, -⟩ := h c howner.mem ⟨s, howner⟩
  exact (nodes_iff ..).2 ⟨c, i, howners t (List.mem_of_getElem? ht), lastAt_of_nodup hnodup ht, rfl⟩

theorem nodeAt_prev {i t : Nat} (ht : c.spells[i]? = some t) : (c.nodeAt (i + 1)).prev = t := by
  simp [Chain.nodeAt, List.getD, ht]

theorem nodeAt_next {i t : Nat} (ht : c.spells[i + 1]? = some t) : (c.nodeAt i).next = t := by
  simp [Chain.nodeAt, List.getD, ht]

theorem nodeAt_next_last {i : Nat} (hi : c.spells.length = i + 1) : (c.nodeAt i).next = 0 := by
  simp [Chain.nodeAt, List.getD, List.getElem?_eq_none (Nat.le_of_eq hi)]

theorem nodeAt_last {i t : Nat} (hi : c.spells.length = i + 1) (ht : c.spells[i]? = some t) :
    (c.nodeAt i).last = t := by
  have hlast : c.spells.getLast? = some t := by
    rw [List.getLast?_eq_getElem?, hi]
    exact ht
  simp [Chain.nodeAt, hlast]

/-- **The nodes of whole chains** are consistent. -/
theorem Proper.consistent_of_whole (hp : Proper chains) (h : Whole chains) : Consistent (nodesOf chains) := by
  have hplace : ∀ s n, nodesOf chains s = some n → ∃ c i, Owner chains c s ∧ c.spells[i]? = some s ∧
      n = c.nodeAt i ∧ c.spells.Nodup ∧ i < c.spells.length ∧ c.spells.length ≤ 255 := by
    intro s n hn
    obtain ⟨c, i, howner, hlast, rfl⟩ := (nodes_iff ..).1 hn
    obtain ⟨-, hnodup, hlen⟩ := h c howner.mem ⟨s, howner⟩
    exact ⟨c, i, howner, hlast.1, rfl, hnodup, (List.getElem?_eq_some_iff.1 hlast.1).1, hlen⟩
  constructor
  · intro s n hn hprev
    obtain ⟨c, i, howner, hs, rfl, -, hi, hlen⟩ := hplace s n hn
    cases i with
    | zero => exact absurd rfl hprev
    | succ i =>
      obtain ⟨t, ht⟩ : ∃ t, c.spells[i]? = some t := ⟨_, List.getElem?_eq_getElem (by omega)⟩
      rw [nodeAt_prev ht]
      refine ⟨c.nodeAt i, h.node howner ht, nodeAt_next hs, ?_, rfl, rfl⟩
      show (i + 1 + 1) % 256 = (i + 1) % 256 + 1
      omega
  · intro s n hn hnext
    obtain ⟨c, i, howner, hs, rfl, -, hi, -⟩ := hplace s n hn
    rcases Nat.lt_or_ge (i + 1) c.spells.length with hlt | hge
    · obtain ⟨t, ht⟩ : ∃ t, c.spells[i + 1]? = some t := ⟨_, List.getElem?_eq_getElem hlt⟩
      rw [nodeAt_next ht]
      exact ⟨c.nodeAt (i + 1), h.node howner ht, rfl, rfl⟩
    · exact absurd (nodeAt_next_last (by omega)) hnext
  · intro s n hn
    obtain ⟨c, i, howner, hs, rfl, -, hi, hlen⟩ := hplace s n hn
    cases i with
    | zero => exact ⟨fun _ => rfl, fun _ => rfl⟩
    | succ i =>
      obtain ⟨t, ht⟩ : ∃ t, c.spells[i]? = some t := ⟨_, List.getElem?_eq_getElem (by omega)⟩
      rw [nodeAt_prev ht]
      have hrank : (c.nodeAt (i + 1)).rank = (i + 2) % 256 := rfl
      rw [hrank]
      exact ⟨fun h0 => absurd h0 (hp.nonzero c howner.mem t (List.mem_of_getElem? ht)), fun h1 => by omega⟩
  · intro s n hn
    obtain ⟨c, i, howner, hs, rfl, hnodup, hi, -⟩ := hplace s n hn
    rcases Nat.lt_or_ge (i + 1) c.spells.length with hlt | hge
    · obtain ⟨t, ht⟩ : ∃ t, c.spells[i + 1]? = some t := ⟨_, List.getElem?_eq_getElem hlt⟩
      obtain ⟨l, hl⟩ : ∃ l, c.spells[c.spells.length - 1]? = some l := ⟨_, List.getElem?_eq_getElem (by omega)⟩
      have hlast : (c.nodeAt i).last = l := nodeAt_last (i := c.spells.length - 1) (by omega) hl
      rw [nodeAt_next ht, hlast]
      refine ⟨fun h0 => absurd h0 (hp.nonzero c howner.mem t (List.mem_of_getElem? ht)), ?_⟩
      rintro rfl
      exact absurd hl ((lastAt_of_nodup hnodup hs).2 _ (by omega))
    · rw [nodeAt_next_last (by omega), nodeAt_last (by omega) hs]
      exact ⟨fun _ => rfl, fun _ => rfl⟩

/-- **Walks** from the spells of whole chains come to an end. -/
theorem Whole.prev_ends (h : Whole chains) (s : Nat) : ∃ n, (getPrevSpellInChain (nodesOf chains))^[n] s = 0 := by
  cases hs : nodesOf chains s with
  | none => exact ⟨1, by simp [getPrevSpellInChain, hs]⟩
  | some n =>
    obtain ⟨c, i, howner, hlast, rfl⟩ := (nodes_iff ..).1 hs
    have hwalk : ∀ i t, c.spells[i]? = some t → (getPrevSpellInChain (nodesOf chains))^[i + 1] t = 0 := by
      intro i
      induction i with
      | zero =>
        intro t ht
        simp [getPrevSpellInChain, h.node howner ht, Chain.nodeAt]
      | succ i ih =>
        intro t ht
        obtain ⟨u, hu⟩ : ∃ u, c.spells[i]? = some u :=
          ⟨_, List.getElem?_eq_getElem (by have := (List.getElem?_eq_some_iff.1 ht).1; omega)⟩
        have hstep : getPrevSpellInChain (nodesOf chains) t = u := by
          simp [getPrevSpellInChain, h.node howner ht, nodeAt_prev hu]
        rw [Function.iterate_succ_apply, hstep]
        exact ih u hu
    exact ⟨i + 1, hwalk i s hlast.1⟩

theorem Whole.next_ends (h : Whole chains) (s : Nat) : ∃ n, (getNextSpellInChain (nodesOf chains))^[n] s = 0 := by
  cases hs : nodesOf chains s with
  | none => exact ⟨1, by simp [getNextSpellInChain, hs]⟩
  | some n =>
    obtain ⟨c, i, howner, hlast, rfl⟩ := (nodes_iff ..).1 hs
    have hwalk : ∀ k i t, c.spells.length = i + k + 1 → c.spells[i]? = some t →
        (getNextSpellInChain (nodesOf chains))^[k + 1] t = 0 := by
      intro k
      induction k with
      | zero =>
        intro i t hlen ht
        simp [getNextSpellInChain, h.node howner ht, nodeAt_next_last hlen]
      | succ k ih =>
        intro i t hlen ht
        obtain ⟨u, hu⟩ : ∃ u, c.spells[i + 1]? = some u := ⟨_, List.getElem?_eq_getElem (by omega)⟩
        have hstep : getNextSpellInChain (nodesOf chains) t = u := by
          simp [getNextSpellInChain, h.node howner ht, nodeAt_next hu]
        rw [Function.iterate_succ_apply, hstep]
        exact ih (i + 1) u (by omega) hu
    have hi := (List.getElem?_eq_some_iff.1 hlast.1).1
    exact ⟨_, hwalk (c.spells.length - 1 - i) i s (by omega) hlast.1⟩

end

theorem selectAuraRank_ends {store : SpellStore} {chains : SpellChainMap} {playerLevel : Nat} {n s : Nat}
    (h : (getPrevSpellInChain chains)^[n] s = 0) :
    (selectAuraRank store chains playerLevel (n + 1) s).isSome = true := by
  induction n generalizing s with
  | zero =>
    obtain rfl : s = 0 := h
    rfl
  | succ n ih =>
    unfold selectAuraRank
    split
    · rfl
    · split
      · rfl
      · split
        · rfl
        · exact ih (by rwa [Function.iterate_succ_apply] at h)

/-- **The nodes** are sound exactly if the chains are whole. -/
theorem Proper.sound_iff {chains : List Chain} (h : Proper chains) (store : SpellStore) :
    Sound store (nodesOf chains) ↔ Whole chains := by
  constructor
  · exact fun hsound => h.whole_of_consistent hsound.consistent
  · refine fun hwhole => ⟨h.consistent_of_whole hwhole, hwhole.prev_ends, hwhole.next_ends, fun playerLevel s => ?_⟩
    obtain ⟨n, hn⟩ := hwhole.prev_ends s
    exact ⟨n + 1, selectAuraRank_ends hn⟩

/-! ## The chains of the rows -/

/-- The chains that are inserted, in order. -/
def acceptedChains (store : SpellStore) (rows : List RankRow) : List Chain :=
  ((readChains rows.length rows).filter (accepts store)).map fun chain => ⟨chain.1, chain.2.map Prod.fst⟩

section

variable {store : SpellStore}

theorem validFrom_rank {chain : List (Nat × Nat)} {k : Nat} (h : validFrom store k chain = true) (i : Nat)
    (p : Nat × Nat) (hp : chain[i]? = some p) : (store p.1).isSome = true ∧ p.2 = k + i + 1 := by
  induction chain generalizing k i with
  | nil => exact nomatch hp
  | cons q chain ih =>
    obtain ⟨spell, rank⟩ := q
    simp only [validFrom, Bool.and_eq_true, beq_iff_eq] at h
    obtain ⟨hspell, hrank, hrest⟩ := h
    cases i with
    | zero =>
      obtain rfl : (spell, rank) = p := Option.some.inj hp
      exact ⟨hspell, hrank⟩
    | succ i =>
      obtain ⟨hsome, heq⟩ := ih hrest i hp
      exact ⟨hsome, by omega⟩

theorem insertFrom_eq {c : Chain} {chain : List (Nat × Nat)} {i : Nat} (hvalid : validFrom store i chain = true)
    (hdrop : c.spells.drop i = chain.map Prod.fst) (map : SpellChainMap) :
    insertFrom c.first (c.spells.getLast?.getD 0) (if i = 0 then 0 else c.spells.getD (i - 1) 0) map chain =
      c.link map i (chain.map Prod.fst) := by
  induction chain generalizing i map with
  | nil => rfl
  | cons q chain ih =>
    obtain ⟨spell, rank⟩ := q
    simp only [validFrom, Bool.and_eq_true, beq_iff_eq] at hvalid
    obtain ⟨-, rfl, hrest⟩ := hvalid
    have hspell : c.spells[i]? = some spell := by
      rw [← List.head?_drop, hdrop]
      rfl
    have hdrop' : c.spells.drop (i + 1) = chain.map Prod.fst := by
      rw [← List.drop_drop, hdrop]
      rfl
    have hnext : (chain.head?.map Prod.fst).getD 0 = c.spells.getD (i + 1) 0 := by
      rw [← List.head?_map, ← hdrop', List.head?_drop]
      rfl
    have hprev : spell = if i + 1 = 0 then 0 else c.spells.getD (i + 1 - 1) 0 := by
      simp [List.getD, hspell]
    have hlink := ih hrest hdrop' (Function.update map spell (some (c.nodeAt i)))
    rw [← hprev] at hlink
    unfold insertFrom
    rw [hnext]
    exact hlink

/-- **The map** is that of the chains that are accepted. -/
theorem loadSpellRanks_eq (rows : List RankRow) :
    loadSpellRanks store rows = nodesOf (acceptedChains store rows) := by
  unfold loadSpellRanks acceptedChains nodesOf
  rw [List.foldl_map, List.foldl_filter]
  congr 1
  funext map chain
  unfold loadChain
  split
  · next haccepts =>
    simp only [accepts, Bool.and_eq_true] at haccepts
    have hlast : (chain.2.getLast?.map Prod.fst).getD 0 = (chain.2.map Prod.fst).getLast?.getD 0 := by
      rw [List.getLast?_map]
    rw [hlast]
    exact insertFrom_eq (c := ⟨chain.1, chain.2.map Prod.fst⟩) (i := 0) haccepts.2.2 rfl map
  · rfl

theorem u32OfInt_toInt32 (n : Nat) (h : n < 4294967296) : u32OfInt (toInt32 n) = n := by
  unfold u32OfInt toInt32
  split <;> omega

theorem toInt32_inj {f g : UInt32} (h : toInt32 f.toNat = toInt32 g.toNat) : f = g := by
  apply UInt32.toNat_inj.1
  rw [← u32OfInt_toInt32 _ f.toNat_lt, h, u32OfInt_toInt32 _ g.toNat_lt]

/-- The spell and the rank of a row. -/
def RankRow.pair (row : RankRow) : Nat × Nat := (row.spell_id.toNat, row.rank.toNat)

theorem fillChain_spec {rows : List RankRow} (hsorted : rows.Pairwise RankRow.Before) (f : UInt32)
    (hge : ∀ row ∈ rows, f ≤ row.first_spell_id) :
    ∃ taken rest, rows = taken ++ rest ∧ (∀ row ∈ rest, f < row.first_spell_id) ∧
      fillChain (toInt32 f.toNat) (toInt32 f.toNat) rows = (toInt32 f.toNat, taken.map RankRow.pair, rest) := by
  induction rows with
  | nil => exact ⟨[], [], rfl, by simp, rfl⟩
  | cons row rows ih =>
    obtain ⟨hbefore, hsorted'⟩ := List.pairwise_cons.1 hsorted
    obtain ⟨hrow, hrows⟩ := List.forall_mem_cons.1 hge
    have hsame : (if toInt32 f.toNat = -1 then toInt32 row.first_spell_id.toNat else toInt32 f.toNat) =
        toInt32 f.toNat := by
      split
      · next hminus =>
        have hf : f.toNat = 4294967295 := by
          rw [← u32OfInt_toInt32 _ f.toNat_lt, hminus]
          rfl
        have hle := UInt32.le_iff_toNat_le.1 hrow
        have hlt := row.first_spell_id.toNat_lt
        rw [show row.first_spell_id.toNat = f.toNat by omega]
      · rfl
    unfold fillChain
    rw [if_pos rfl]
    simp only [hsame]
    by_cases heq : row.first_spell_id = f
    · obtain ⟨taken, rest, rfl, hrest, hfill⟩ := ih hsorted' hrows
      refine ⟨row :: taken, rest, rfl, hrest, ?_⟩
      rw [heq, if_pos rfl, hfill]
      rfl
    · have hlt : f < row.first_spell_id := UInt32.lt_of_le_of_ne hrow (fun h => heq h.symm)
      refine ⟨[], row :: rows, rfl, ?_, ?_⟩
      · refine List.forall_mem_cons.2 ⟨hlt, fun r hr => ?_⟩
        rcases hbefore r hr with h | ⟨h, -⟩
        · exact UInt32.lt_trans hlt h
        · exact h ▸ hlt
      · rw [if_neg fun h => heq (toInt32_inj h)]
        rfl

/-- **The chains that are read**: their first spells ascend, and their rows are rows of the table. -/
theorem readChains_spec (n : Nat) {rows : List RankRow} (hsorted : rows.Pairwise RankRow.Before) :
    ((readChains n rows).map Prod.fst).Pairwise (· < ·) ∧
      (∀ chain ∈ readChains n rows, ∃ row ∈ rows, chain.1 = row.first_spell_id.toNat) ∧
      ((readChains n rows).flatMap Prod.snd).Sublist (rows.map RankRow.pair) := by
  induction n generalizing rows with
  | zero => exact ⟨List.Pairwise.nil, List.forall_mem_nil _, List.nil_sublist _⟩
  | succ n ih =>
    cases rows with
    | nil => exact ⟨List.Pairwise.nil, List.forall_mem_nil _, List.nil_sublist _⟩
    | cons row rows =>
      obtain ⟨hbefore, hsorted'⟩ := List.pairwise_cons.1 hsorted
      have hge : ∀ r ∈ rows, row.first_spell_id ≤ r.first_spell_id := by
        intro r hr
        rcases hbefore r hr with h | ⟨h, -⟩
        · exact UInt32.le_of_lt h
        · exact h ▸ UInt32.le_refl _
      obtain ⟨taken, rest, rfl, hrest, hfill⟩ := fillChain_spec hsorted' row.first_spell_id hge
      have hfirst : fillChain (-1) (-1) (row :: (taken ++ rest)) =
          (toInt32 row.first_spell_id.toNat, row.pair :: taken.map RankRow.pair, rest) := by
        unfold fillChain
        simp only [if_true, hfill]
        rfl
      obtain ⟨hpair, hmem, hsub⟩ := ih (List.pairwise_append.1 hsorted').2.1
      unfold readChains
      simp only [hfirst, u32OfInt_toInt32 _ row.first_spell_id.toNat_lt]
      refine ⟨?_, ?_, ?_⟩
      · rw [List.map_cons, List.pairwise_cons]
        refine ⟨fun m hm => ?_, hpair⟩
        obtain ⟨chain, hchain, rfl⟩ := List.mem_map.1 hm
        obtain ⟨r, hr, heq⟩ := hmem chain hchain
        rw [heq]
        exact UInt32.lt_iff_toNat_lt.1 (hrest r hr)
      · refine List.forall_mem_cons.2 ⟨⟨row, List.mem_cons_self, rfl⟩, fun chain hchain => ?_⟩
        obtain ⟨r, hr, heq⟩ := hmem chain hchain
        exact ⟨r, List.mem_cons_of_mem _ (List.mem_append_right _ hr), heq⟩
      · rw [List.flatMap_cons, List.map_cons, List.map_append]
        exact (List.Sublist.append_left hsub (taken.map RankRow.pair)).cons_cons row.pair

theorem mem_acceptedChains {rows : List RankRow} {c : Chain} (h : c ∈ acceptedChains store rows) :
    ∃ chain ∈ readChains rows.length rows, c = ⟨chain.1, chain.2.map Prod.fst⟩ ∧ validFrom store 0 chain.2 = true := by
  obtain ⟨chain, hchain, rfl⟩ := List.mem_map.1 h
  obtain ⟨hread, haccepts⟩ := List.mem_filter.1 hchain
  simp only [accepts, Bool.and_eq_true] at haccepts
  exact ⟨chain, hread, rfl, haccepts.2.2⟩

theorem proper_acceptedChains (hstore : store 0 = none) {rows : List RankRow}
    (hsorted : rows.Pairwise RankRow.Before) : Proper (acceptedChains store rows) := by
  constructor
  · obtain ⟨hpair, -⟩ := readChains_spec rows.length hsorted
    have hnodup : ((readChains rows.length rows).map Prod.fst).Nodup := hpair.imp fun h => Nat.ne_of_lt h
    unfold acceptedChains
    rw [List.map_map]
    exact hnodup.sublist (List.filter_sublist.map Prod.fst)
  · rintro c hc s hs rfl
    obtain ⟨chain, -, rfl, hvalid⟩ := mem_acceptedChains hc
    obtain ⟨p, hp, hzero⟩ := List.mem_map.1 hs
    obtain ⟨i, hi⟩ := List.mem_iff_getElem?.1 hp
    have hsome := (validFrom_rank hvalid i p hi).1
    rw [hzero, hstore] at hsome
    exact nomatch hsome

/-- The keys of the table: `spell_id` is unique, and `rank` is a `tinyint`. -/
structure KeysHold (rows : List RankRow) : Prop where
  spell_id : (rows.map RankRow.spell_id).Nodup
  rank : ∀ row ∈ rows, row.rank.toNat ≤ 255

/-- **The keys of the table** see to whole chains. -/
theorem KeysHold.whole {rows : List RankRow} (h : KeysHold rows) (hsorted : rows.Pairwise RankRow.Before) :
    Whole (acceptedChains store rows) := by
  obtain ⟨-, -, hsub⟩ := readChains_spec rows.length hsorted
  have hspells : ((readChains rows.length rows).flatMap fun chain => chain.2.map Prod.fst).Nodup := by
    have hall : (rows.map fun row => row.spell_id.toNat).Nodup := by
      have := h.spell_id.map (f := UInt32.toNat) fun _ _ => UInt32.toNat_inj.1
      rwa [List.map_map] at this
    rw [← List.map_flatMap]
    have hmap := hsub.map Prod.fst
    rw [List.map_map] at hmap
    exact hall.sublist hmap
  have hchains : ((acceptedChains store rows).flatMap Chain.spells).Nodup := by
    unfold acceptedChains
    rw [List.flatMap_map]
    exact hspells.sublist (List.filter_sublist.flatMap _)
  rw [List.nodup_flatMap] at hchains
  obtain ⟨hnodup, hdisjoint⟩ := hchains
  rintro c hc -
  refine ⟨fun s hs => ?_, hnodup c hc, ?_⟩
  · obtain ⟨before, after, heq⟩ := List.append_of_mem hc
    rw [heq] at hdisjoint
    refine ⟨before, after, heq, hs, fun d hd hmem => ?_⟩
    exact (List.pairwise_cons.1 (List.pairwise_append.1 hdisjoint).2.1).1 d hd hs hmem
  · obtain ⟨chain, hread, rfl, hvalid⟩ := mem_acceptedChains hc
    rw [List.length_map]
    by_contra hlong
    obtain ⟨p, hp⟩ : ∃ p, chain.2[255]? = some p := ⟨_, List.getElem?_eq_getElem (by omega)⟩
    have hrank := (validFrom_rank hvalid 255 p hp).2
    have hmem : p ∈ rows.map RankRow.pair :=
      hsub.subset (List.mem_flatMap.2 ⟨chain, hread, List.mem_of_getElem? hp⟩)
    obtain ⟨row, hrow, rfl⟩ := List.mem_map.1 hmem
    have hle := h.rank row hrow
    simp only [RankRow.pair] at hrank
    omega

end

/-! ## Soundness -/

/-- **The chains of spells.**  For every content of `spell_ranks`, in the order in which it is read, the
nodes in `mSpellChains` are sound exactly if every chain of which a spell is left in the end is left
whole, has no spell twice and has at most 255 spells; and so they are for every content that the keys
of the table admit. -/
theorem loadSpellRanks_sound_iff (store : SpellStore) (hstore : store 0 = none) (rows : List RankRow)
    (hsorted : rows.Pairwise RankRow.Before) :
    (Sound store (loadSpellRanks store rows) ↔ Whole (acceptedChains store rows)) ∧
      (KeysHold rows → Sound store (loadSpellRanks store rows)) := by
  rw [loadSpellRanks_eq]
  have hiff := (proper_acceptedChains hstore hsorted).sound_iff store
  exact ⟨hiff, fun hkeys => hiff.2 (hkeys.whole hsorted)⟩

/-- A store with the spells 1 to 9, of a level each. -/
def sampleStore : SpellStore := fun id => if 1 ≤ id ∧ id ≤ 9 then some (10 * id) else none

theorem loadSpellRanks_sound_iff_sample :
    let rows : List RankRow := [⟨1, 1, 1⟩, ⟨1, 2, 2⟩, ⟨3, 3, 1⟩, ⟨3, 4, 2⟩, ⟨3, 2, 3⟩]
    (Sound sampleStore (loadSpellRanks sampleStore rows) ↔ Whole (acceptedChains sampleStore rows)) ∧
      (KeysHold rows → Sound sampleStore (loadSpellRanks sampleStore rows)) :=
  loadSpellRanks_sound_iff sampleStore rfl _ (by decide)

/-- **A spell that is in its chain twice**: rank 2 comes after rank 3, and the walk down goes around. -/
theorem prev_goes_around :
    let chains := loadSpellRanks sampleStore [⟨1, 1, 1⟩, ⟨1, 2, 2⟩, ⟨1, 1, 3⟩]
    (∀ n, (getPrevSpellInChain chains)^[n] 1 ≠ 0) ∧ ¬ Sound sampleStore chains := by
  intro chains
  have h1 : getPrevSpellInChain chains 1 = 2 := by decide
  have h2 : getPrevSpellInChain chains 2 = 1 := by decide
  have hwalk : ∀ n, (getPrevSpellInChain chains)^[n] 1 ≠ 0 ∧ (getPrevSpellInChain chains)^[n] 2 ≠ 0 := by
    intro n
    induction n with
    | zero => decide
    | succ n ih =>
      rw [Function.iterate_succ_apply, Function.iterate_succ_apply, h1, h2]
      exact ih.symm
  refine ⟨fun n => (hwalk n).1, fun hsound => ?_⟩
  obtain ⟨n, hn⟩ := hsound.prev_ends 1
  exact (hwalk n).1 hn

end BlizzLike.SpellRanks
