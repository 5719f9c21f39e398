import BlizzLikeCore.Threat.ThreatManager
import Mathlib.Data.List.Basic
import Mathlib.Data.List.Count
import Mathlib.Data.List.Nodup

/-!
# The containers of a threat manager

Every reference is in the container its online flag names and in no other, there is one reference for a
unit at most, and the current victim is online.  The setters break this for a moment: the flag is
written first, and the event the setter fires moves the reference.

    Known, Placed         : the invariant, of the heap and of the containers
    addThreatOf_placed    : threat and the threat to owners it brings along, by induction on the depth
    handle_placed         : an operation
    containers_consistent : the result, for every run
    handle_returns        : operations return where the owners' owners come to an end
-/

namespace BlizzLike

/-- A reference is linked to the unit it was made for, or cut off and offline. -/
def HostileReference.Tied {F : Type} (ref : HostileReference F) : Prop :=
  ref.iRefTo = some ref.iUnitGuid ∨ ref.iRefTo = none ∧ ref.iOnline = false

namespace ThreatManager

variable {F : Type}

/-- The invariant of the references. -/
structure Known (refs : Nat → Option (HostileReference F)) (nextRef : Nat) : Prop where
  single : ∀ r r' ref ref', refs r = some ref → refs r' = some ref' → ref.iUnitGuid = ref'.iUnitGuid → r = r'
  fresh : ∀ r, nextRef ≤ r → refs r = none
  tied : ∀ r ref, refs r = some ref → ref.Tied

/-- The invariant of a threat manager. -/
structure Placed (m : ThreatManager F) : Prop where
  known : Known m.refs m.nextRef
  online_nodup : m.iThreatContainer.Nodup
  offline_nodup : m.iThreatOfflineContainer.Nodup
  mem_online : ∀ r, r ∈ m.iThreatContainer ↔ ∃ ref, m.refs r = some ref ∧ ref.iOnline = true
  mem_offline : ∀ r, r ∈ m.iThreatOfflineContainer ↔ ∃ ref, m.refs r = some ref ∧ ref.iOnline = false
  victim : ∀ r, m.iCurrentVictim = some r → r ∈ m.iThreatContainer

theorem placed_new (iOwner : Nat) : Placed ({ iOwner := iOwner } : ThreatManager F) where
  known := ⟨by simp, by simp, by simp⟩
  online_nodup := List.nodup_nil
  offline_nodup := List.nodup_nil
  mem_online := by simp
  mem_offline := by simp
  victim := by simp

variable {o : FloatOps F} {u : Surroundings F} {m m' : ThreatManager F} {r : Nat} {ref : HostileReference F}
  {refs : Nat → Option (HostileReference F)} {nextRef : Nat}

theorem Known.lt_nextRef (h : Known refs nextRef) (hr : refs r = some ref) : r < nextRef := by
  by_contra hlt
  rw [h.fresh r (by omega)] at hr
  cases hr

theorem Known.write (h : Known refs nextRef) (hr : refs r = some ref) {ref' : HostileReference F}
    (hguid : ref'.iUnitGuid = ref.iUnitGuid) (htied : ref'.Tied) :
    Known (Function.update refs r (some ref')) nextRef := by
  have hat : ∀ a x, Function.update refs r (some ref') a = some x →
      ∃ y, refs a = some y ∧ x.iUnitGuid = y.iUnitGuid := by
    intro a x ha
    by_cases he : a = r
    · subst he
      rw [Function.update_self, Option.some.injEq] at ha
      exact ⟨ref, hr, by rw [← ha, hguid]⟩
    · rw [Function.update_of_ne he] at ha
      exact ⟨x, ha, rfl⟩
  refine ⟨?_, ?_, ?_⟩
  · intro a b x y ha hb hxy
    obtain ⟨x', hx, hgx⟩ := hat a x ha
    obtain ⟨y', hy, hgy⟩ := hat b y hb
    exact h.single a b x' y' hx hy (by rw [← hgx, ← hgy, hxy])
  · intro a hle
    have hlt := h.lt_nextRef hr
    rw [Function.update_of_ne (by omega)]
    exact h.fresh a hle
  · intro a x ha
    by_cases he : a = r
    · subst he
      rw [Function.update_self, Option.some.injEq] at ha
      exact ha ▸ htied
    · rw [Function.update_of_ne he] at ha
      exact h.tied a x ha

theorem Known.delete (h : Known refs nextRef) {refs' : Nat → Option (HostileReference F)}
    (hsub : ∀ a x, refs' a = some x → refs a = some x) : Known refs' nextRef := by
  refine ⟨fun a b x y ha hb => h.single a b x y (hsub a x ha) (hsub b y hb), fun a hle => ?_,
    fun a x ha => h.tied a x (hsub a x ha)⟩
  cases ha : refs' a with
  | none => rfl
  | some x => exact absurd (h.lt_nextRef (hsub a x ha)) (by omega)

theorem Known.create (h : Known refs nextRef) (hnew : ∀ a x, refs a = some x → x.iUnitGuid ≠ ref.iUnitGuid)
    (htied : ref.Tied) : Known (Function.update refs nextRef (some ref)) (nextRef + 1) := by
  refine ⟨?_, ?_, ?_⟩
  · intro a b x y ha hb hxy
    rcases eq_or_ne a nextRef with hna | hna <;> rcases eq_or_ne b nextRef with hnb | hnb
    · rw [hna, hnb]
    · rw [hna, Function.update_self, Option.some.injEq] at ha
      rw [Function.update_of_ne hnb] at hb
      exact absurd (by rw [← hxy, ha]) (hnew b y hb)
    · rw [hnb, Function.update_self, Option.some.injEq] at hb
      rw [Function.update_of_ne hna] at ha
      exact absurd (by rw [hxy, hb]) (hnew a x ha)
    · rw [Function.update_of_ne hna] at ha
      rw [Function.update_of_ne hnb] at hb
      exact h.single a b x y ha hb hxy
  · intro a hle
    rw [Function.update_of_ne (by omega)]
    exact h.fresh a (by omega)
  · intro a x ha
    rcases eq_or_ne a nextRef with rfl | hna
    · rw [Function.update_self, Option.some.injEq] at ha
      exact ha ▸ htied
    · rw [Function.update_of_ne hna] at ha
      exact h.tied a x ha

theorem setRef_eq (hr : m.refs r = some ref) (f : HostileReference F → HostileReference F) :
    m.setRef r f = { m with refs := Function.update m.refs r (some (f ref)) } := by
  simp [setRef, hr]

theorem Placed.write (h : Placed m) (hr : m.refs r = some ref) {ref' : HostileReference F}
    (honline : ref'.iOnline = ref.iOnline) (hguid : ref'.iUnitGuid = ref.iUnitGuid) (htied : ref'.Tied) :
    Placed { m with refs := Function.update m.refs r (some ref') } := by
  have hmem : ∀ a b, (∃ x, Function.update m.refs r (some ref') a = some x ∧ x.iOnline = b) ↔
      ∃ x, m.refs a = some x ∧ x.iOnline = b := by
    intro a b
    by_cases he : a = r
    · subst he
      simp [hr, honline]
    · rw [Function.update_of_ne he]
  exact ⟨h.known.write hr hguid htied, h.online_nodup, h.offline_nodup,
    fun a => (h.mem_online a).trans (hmem a true).symm,
    fun a => (h.mem_offline a).trans (hmem a false).symm, h.victim⟩

theorem Placed.setRef (h : Placed m) (f : HostileReference F → HostileReference F)
    (honline : ∀ ref, (f ref).iOnline = ref.iOnline) (hguid : ∀ ref, (f ref).iUnitGuid = ref.iUnitGuid)
    (hrefTo : ∀ ref, (f ref).iRefTo = ref.iRefTo) : Placed (m.setRef r f) := by
  cases hr : m.refs r with
  | none => simpa [ThreatManager.setRef, hr] using h
  | some ref =>
    rw [setRef_eq hr]
    refine h.write hr (honline ref) (hguid ref) ?_
    have ht := h.known.tied r ref hr
    simpa only [HostileReference.Tied, honline, hguid, hrefTo] using ht

theorem Placed.dirty (h : Placed m) (d : Bool) : Placed { m with iDirty := d } :=
  ⟨h.known, h.online_nodup, h.offline_nodup, h.mem_online, h.mem_offline, h.victim⟩

theorem Placed.not_offline (h : Placed m) (hr : m.refs r = some ref) (hon : ref.iOnline = true) :
    r ∉ m.iThreatOfflineContainer := by
  rw [h.mem_offline]
  rintro ⟨x, hx, hoff⟩
  rw [hr, Option.some.injEq] at hx
  rw [← hx, hon] at hoff
  cases hoff

theorem Placed.not_online (h : Placed m) (hr : m.refs r = some ref) (hoff : ref.iOnline = false) :
    r ∉ m.iThreatContainer := by
  rw [h.mem_online]
  rintro ⟨x, hx, hon⟩
  rw [hr, Option.some.injEq] at hx
  rw [← hx, hoff] at hon
  cases hon

/-! ## The setters and their events -/

theorem setAccessibleState_eq (hr : m.refs r = some ref) (b : Bool) :
    m.setAccessibleState o r b =
      { m with refs := Function.update m.refs r (some { ref with iAccessible := b }) } := by
  unfold setAccessibleState
  simp only [hr]
  split
  · rw [setRef_eq hr]
    rfl
  · next heq =>
    have hb : ref.iAccessible = b := by simpa using heq
    rw [show ({ ref with iAccessible := b } : HostileReference F) = ref by rw [← hb], ← hr,
      Function.update_eq_self]

theorem Placed.setAccessibleState (h : Placed m) (r : Nat) (b : Bool) :
    Placed (m.setAccessibleState o r b) := by
  cases hr : m.refs r with
  | none => simpa [ThreatManager.setAccessibleState, hr] using h
  | some ref =>
    rw [setAccessibleState_eq hr]
    exact h.write hr rfl rfl (h.known.tied r ref hr)

/-- **Going offline**: the reference has left the online container, and is not the victim. -/
theorem setOffline_eq (hr : m.refs r = some ref) (hon : ref.iOnline = true) :
    ∃ d, m.setOnlineOfflineState o r false =
      { m with
        refs := Function.update m.refs r (some { ref with iOnline := false, iAccessible := false })
        iThreatContainer := m.iThreatContainer.filter (· ≠ r)
        iThreatOfflineContainer := m.iThreatOfflineContainer ++ [r]
        iDirty := d
        iCurrentVictim := if m.iCurrentVictim = some r then none else m.iCurrentVictim } := by
  have hset : (m.setRef r fun ref => { ref with iOnline := false }).setAccessibleState o r false =
      { m with refs := Function.update m.refs r (some { ref with iOnline := false, iAccessible := false }) } := by
    rw [setRef_eq hr, setAccessibleState_eq (Function.update_self ..)]
    simp
  simp only [setOnlineOfflineState, hr, hon, hset, processThreatEvent, isOnline]
  by_cases hv : m.iCurrentVictim = some r
  · exact ⟨true, by simp [hv]⟩
  · exact ⟨m.iDirty, by simp [hv]⟩

/-- **Going online**: the reference has left the offline container. -/
theorem setOnline_eq (hr : m.refs r = some ref) (hoff : ref.iOnline = false) :
    ∃ d, m.setOnlineOfflineState o r true =
      { m with
        refs := Function.update m.refs r (some { ref with iOnline := true })
        iThreatContainer := m.iThreatContainer ++ [r]
        iThreatOfflineContainer := m.iThreatOfflineContainer.filter (· ≠ r)
        iDirty := d } := by
  simp only [setOnlineOfflineState, hr, hoff, setRef_eq hr, processThreatEvent, isOnline, setDirty]
  simp only [Bool.false_eq_true, ne_eq, not_false_eq_true, if_true, Bool.not_true, if_false,
    Function.update_self, Option.map_some, Option.getD_some]
  cases m.iCurrentVictim with
  | none => exact ⟨m.iDirty, rfl⟩
  | some c =>
    dsimp only
    split
    · exact ⟨true, rfl⟩
    · exact ⟨m.iDirty, rfl⟩

theorem setOnlineOfflineState_same (hr : m.refs r = some ref) {b : Bool} (hb : ref.iOnline = b) :
    m.setOnlineOfflineState o r b = m := by
  simp [setOnlineOfflineState, hr, hb]

theorem Placed.setOffline (h : Placed m) (hr : m.refs r = some ref) (hon : ref.iOnline = true)
    (htied : ref.iRefTo = some ref.iUnitGuid) : Placed (m.setOnlineOfflineState o r false) := by
  obtain ⟨d, hd⟩ := setOffline_eq (o := o) hr hon
  have hout := h.not_offline hr hon
  rw [hd]
  refine ⟨h.known.write hr rfl (.inl htied), h.online_nodup.filter _, ?_, ?_, ?_, ?_⟩
  · simpa only [List.concat_eq_append] using h.offline_nodup.concat hout
  · intro a
    by_cases he : a = r
    · subst he
      simp
    · simp [he, h.mem_online a]
  · intro a
    by_cases he : a = r
    · subst he
      simp
    · simp [he, h.mem_offline a]
  · intro c hc
    simp only [ite_eq_iff] at hc
    rcases hc with ⟨-, hc⟩ | ⟨hne, hc⟩
    · cases hc
    · have hcr : c ≠ r := fun he => hne (he ▸ hc)
      simpa [hcr] using h.victim c hc

theorem Placed.setOnline (h : Placed m) (hr : m.refs r = some ref) (hoff : ref.iOnline = false)
    (htied : ref.iRefTo = some ref.iUnitGuid) : Placed (m.setOnlineOfflineState o r true) := by
  obtain ⟨d, hd⟩ := setOnline_eq (o := o) hr hoff
  have hout := h.not_online hr hoff
  rw [hd]
  refine ⟨h.known.write hr rfl (.inl htied), ?_, h.offline_nodup.filter _, ?_, ?_, ?_⟩
  · simpa only [List.concat_eq_append] using h.online_nodup.concat hout
  · intro a
    by_cases he : a = r
    · subst he
      simp
    · simp [he, h.mem_online a]
  · intro a
    by_cases he : a = r
    · subst he
      simp
    · simp [he, h.mem_offline a]
  · intro c hc
    exact List.mem_append_left _ (h.victim c hc)

theorem Placed.setOnlineOfflineState (h : Placed m) (b : Bool) (hlink : b = true → (m.getTarget r).isSome) :
    Placed (m.setOnlineOfflineState o r b) := by
  cases hr : m.refs r with
  | none => simpa [ThreatManager.setOnlineOfflineState, hr] using h
  | some ref =>
    have ht := h.known.tied r ref hr
    simp only [getTarget, hr, Option.bind_some] at hlink
    rcases eq_or_ne ref.iOnline b with heq | hne
    · rw [setOnlineOfflineState_same hr heq]
      exact h
    · cases b with
      | true =>
        have hoff : ref.iOnline = false := by simpa using hne
        rcases ht with ht | ⟨hnone, -⟩
        · exact h.setOnline hr hoff ht
        · simp [hnone] at hlink
      | false =>
        have hon : ref.iOnline = true := by simpa using hne
        rcases ht with ht | ⟨-, hf⟩
        · exact h.setOffline hr hon ht
        · rw [hon] at hf
          cases hf

theorem Placed.relink (h : Placed m) (r : Nat) : Placed (m.relink u r) := by
  unfold ThreatManager.relink
  split
  · next ref hr =>
    split
    · rw [setRef_eq hr]
      exact h.write hr rfl rfl (.inl rfl)
    · exact h
  · exact h

theorem getTarget_setAccessibleState (m : ThreatManager F) (r : Nat) (b : Bool) :
    (m.setAccessibleState o r b).getTarget r = m.getTarget r := by
  cases hr : m.refs r with
  | none => simp [setAccessibleState, hr]
  | some ref => simp [setAccessibleState_eq hr, getTarget, hr]

theorem Placed.updateOnlineStatus (h : Placed m) (r : Nat) : Placed (m.updateOnlineStatus o u r) := by
  unfold ThreatManager.updateOnlineStatus
  refine ((h.relink r).setAccessibleState r _).setOnlineOfflineState _ fun honline => ?_
  rw [getTarget_setAccessibleState]
  cases ht : (m.relink u r).getTarget r with
  | some t => rfl
  | none =>
    rw [ht] at honline
    cases honline

theorem isOnline_setOffline (m : ThreatManager F) (r : Nat) :
    (m.setOnlineOfflineState o r false).isOnline r = false := by
  cases hr : m.refs r with
  | none => simp [ThreatManager.setOnlineOfflineState, isOnline, hr]
  | some ref =>
    rcases Bool.eq_false_or_eq_true ref.iOnline with hon | hoff
    · obtain ⟨d, hd⟩ := setOffline_eq (o := o) hr hon
      simp [hd, isOnline]
    · simp [setOnlineOfflineState_same hr hoff, isOnline, hr, hoff]

theorem Placed.invalidate (h : Placed m) (r : Nat) :
    Placed (m.invalidate o r) ∧ (m.invalidate o r).isOnline r = false := by
  have hoff := h.setOnlineOfflineState (o := o) (r := r) false fun hf => nomatch hf
  have hgone := isOnline_setOffline (o := o) m r
  unfold ThreatManager.invalidate
  cases hx : (m.setOnlineOfflineState o r false).refs r with
  | none => simpa [ThreatManager.setRef, hx] using And.intro hoff hgone
  | some x =>
    have hxo : x.iOnline = false := by simpa [isOnline, hx] using hgone
    rw [setRef_eq hx]
    exact ⟨hoff.write hx rfl rfl (.inr ⟨rfl, hxo⟩), by simpa [isOnline] using hxo⟩

theorem Placed.not_mem_online (h : Placed m) (hoff : m.isOnline r = false) : r ∉ m.iThreatContainer := by
  rw [h.mem_online]
  rintro ⟨x, hx, hon⟩
  simp [isOnline, hx, hon] at hoff

theorem Placed.dropOffline (h : Placed m) (hout : r ∉ m.iThreatContainer) :
    Placed { m with
      refs := Function.update m.refs r none
      iThreatOfflineContainer := m.iThreatOfflineContainer.filter (· ≠ r) } := by
  refine ⟨h.known.delete fun a x ha => ?_, h.online_nodup, h.offline_nodup.filter _, fun a => ?_, fun a => ?_,
    h.victim⟩
  · rcases eq_or_ne a r with rfl | hne
    · simp at ha
    · simpa [hne] using ha
  · rcases eq_or_ne a r with rfl | hne
    · simpa using hout
    · simp [hne, h.mem_online a]
  · rcases eq_or_ne a r with rfl | hne
    · simp
    · simp [hne, h.mem_offline a]

/-- **Removal**: the reference goes offline first, so it is the offline container it is taken out of. -/
theorem Placed.removeReference (h : Placed m) (r : Nat) : Placed ((m.removeReference o r).deleteRef r) := by
  obtain ⟨hinv, hoff⟩ := h.invalidate (o := o) r
  have hout := hinv.not_mem_online hoff
  have hvictim : (m.invalidate o r).iCurrentVictim ≠ some r := fun hv => hout (hinv.victim r hv)
  have heq : (m.removeReference o r).deleteRef r = { m.invalidate o r with
      refs := Function.update (m.invalidate o r).refs r none
      iThreatOfflineContainer := (m.invalidate o r).iThreatOfflineContainer.filter (· ≠ r) } := by
    simp [ThreatManager.removeReference, processThreatEvent, hvictim, hoff, deleteRef]
  rw [heq]
  exact hinv.dropOffline hout

/-! ## Threat -/

/-- A function that adds threat keeps the invariant. -/
def Keeps (addsThreat : AddsThreat F) : Prop :=
  ∀ m r pMod m', Placed m → addsThreat m r pMod = some m' → Placed m'

theorem Placed.processThreatChange (h : Placed m) (r : Nat) (fValue : F) :
    Placed (m.processThreatEvent o (.threatChange r fValue)) := by
  rw [processThreatEvent.eq_1]
  split
  · exact h.dirty true
  · exact h

theorem Placed.changeThreat (h : Placed m) (r : Nat) (pMod : F) : Placed (m.changeThreat o u r pMod) := by
  have h1 : Placed (m.setRef r fun ref => { ref with iThreat := o.add ref.iThreat pMod }) :=
    h.setRef _ (fun _ => rfl) (fun _ => rfl) fun _ => rfl
  have h2 : Placed (if !(m.setRef r fun ref => { ref with iThreat := o.add ref.iThreat pMod }).isOnline r then
      (m.setRef r fun ref => { ref with iThreat := o.add ref.iThreat pMod }).updateOnlineStatus o u r
      else m.setRef r fun ref => { ref with iThreat := o.add ref.iThreat pMod }) := by
    split
    · exact h1.updateOnlineStatus r
    · exact h1
  unfold ThreatManager.changeThreat
  dsimp only
  split
  · exact h2.processThreatChange r pMod
  · exact h2

theorem getReferenceByTarget_none {iThreatList : List Nat} {guid : Nat}
    (h : m.getReferenceByTarget iThreatList guid = none) {a : Nat} (ha : a ∈ iThreatList)
    {x : HostileReference F} (hx : m.refs a = some x) : x.iUnitGuid ≠ guid := by
  have := List.find?_eq_none.1 h a ha
  simpa [hx] using this

theorem Placed.no_ref (h : Placed m) {guid : Nat}
    (hon : m.getReferenceByTarget m.iThreatContainer guid = none)
    (hoff : m.getReferenceByTarget m.iThreatOfflineContainer guid = none) :
    ∀ a x, m.refs a = some x → x.iUnitGuid ≠ guid := by
  intro a x hx
  rcases Bool.eq_false_or_eq_true x.iOnline with hb | hb
  · exact getReferenceByTarget_none hon ((h.mem_online a).2 ⟨x, hx, hb⟩) hx
  · exact getReferenceByTarget_none hoff ((h.mem_offline a).2 ⟨x, hx, hb⟩) hx

theorem Placed.newReference (h : Placed m) {guid : Nat}
    (hnew : ∀ a x, m.refs a = some x → x.iUnitGuid ≠ guid) : Placed (m.newReference o guid) := by
  have hfree : m.refs m.nextRef = none := h.known.fresh _ (Nat.le_refl _)
  have hout : m.nextRef ∉ m.iThreatContainer := by
    rw [h.mem_online]
    simp [hfree]
  have hout' : m.nextRef ∉ m.iThreatOfflineContainer := by
    rw [h.mem_offline]
    simp [hfree]
  refine ⟨h.known.create hnew (.inl rfl), ?_, h.offline_nodup, fun a => ?_, fun a => ?_, fun c hc => ?_⟩
  · simpa [ThreatManager.newReference] using h.online_nodup.concat hout
  · rcases eq_or_ne a m.nextRef with rfl | hne
    · simp [ThreatManager.newReference]
    · simp [ThreatManager.newReference, hne, h.mem_online a]
  · rcases eq_or_ne a m.nextRef with rfl | hne
    · simpa [ThreatManager.newReference] using hout'
    · simp [ThreatManager.newReference, hne, h.mem_offline a]
  · exact List.mem_append_left _ (h.victim c hc)

variable {refAddThreat : AddsThreat F}

theorem Placed.addThreatTo (hk : Keeps refAddThreat) (h : Placed m) {pVictim : Nat} {threat : F}
    (he : m.addThreatTo o u refAddThreat pVictim threat = some m') : Placed m' := by
  unfold ThreatManager.addThreatTo at he
  split at he
  · exact hk _ _ _ _ h he
  · next hon =>
    split at he
    · exact hk _ _ _ _ h he
    · next hoff =>
      obtain ⟨m1, h1, he⟩ := Option.bind_eq_some_iff.1 he
      have hp := hk _ _ _ _ (h.newReference (h.no_ref hon hoff)) h1
      split at he
      · cases he
        exact hp.setOnlineOfflineState false fun hf => nomatch hf
      · cases he
        exact hp

theorem Placed.addMisdirected (hk : Keeps refAddThreat) (h : Placed m) {pVictim : Nat} {threat rest : F}
    (he : m.addMisdirected o u refAddThreat pVictim threat = some (m', rest)) : Placed m' := by
  unfold ThreatManager.addMisdirected at he
  dsimp only at he
  split at he
  · split at he
    · obtain ⟨m1, h1, he⟩ := Option.map_eq_some_iff.1 he
      cases he
      exact h.addThreatTo hk h1
    · cases he
      exact h
  · cases he
    exact h

theorem Placed.addThreat (hk : Keeps refAddThreat) (h : Placed m) {pVictim : Option Nat} {pThreat : F}
    {schoolMask : Nat} {pThreatSpell : Option Nat}
    (he : m.addThreat o u refAddThreat pVictim pThreat schoolMask pThreatSpell = some m') : Placed m' := by
  unfold ThreatManager.addThreat at he
  split at he
  · cases he
    exact h
  · split at he
    · cases he
      exact h
    · split at he
      · cases he
        exact h
      · split at he
        · cases he
          exact h
        · obtain ⟨⟨m1, rest⟩, h1, he⟩ := Option.bind_eq_some_iff.1 he
          exact (h.addMisdirected hk h1).addThreatTo hk he

/-- **Threat of a reference**, with the threat to owners it brings along; by induction on the depth. -/
theorem addThreatOf_placed (fuel : Nat) : Keeps (addThreatOf o u fuel) := by
  induction fuel with
  | zero =>
    intro m r pMod m' _ he
    cases he
  | succ fuel ih =>
    intro m r pMod m' h he
    have hp := h.changeThreat (o := o) (u := u) r pMod
    simp only [addThreatOf] at he
    split at he
    · split at he
      · split at he
        · split at he
          · exact hp.addThreat ih he
          · cases he
            exact hp
        · cases he
          exact hp
      · cases he
        exact hp
    · cases he
      exact hp

theorem Placed.addThreatPercent (hk : Keeps refAddThreat) (h : Placed m) {pPercent : Int}
    (he : m.addThreatPercent o refAddThreat r pPercent = some m') : Placed m' :=
  hk _ _ _ _ h he

theorem Placed.setTempThreat (hk : Keeps refAddThreat) (h : Placed m) {pThreat : F}
    (he : m.setTempThreat o refAddThreat r pThreat = some m') : Placed m' := by
  have hp : Placed (m.setRef r fun ref =>
      { ref with iTempThreatModifyer := o.sub pThreat (m.getThreat o r) }) :=
    h.setRef _ (fun _ => rfl) (fun _ => rfl) fun _ => rfl
  unfold ThreatManager.setTempThreat at he
  dsimp only at he
  split at he
  · exact hk _ _ _ _ hp he
  · cases he
    exact hp

theorem Placed.resetTempThreat (hk : Keeps refAddThreat) (h : Placed m)
    (he : m.resetTempThreat o refAddThreat r = some m') : Placed m' := by
  unfold ThreatManager.resetTempThreat at he
  split at he
  · obtain ⟨m1, h1, he⟩ := Option.bind_eq_some_iff.1 he
    cases he
    exact (hk _ _ _ _ h h1).setRef _ (fun _ => rfl) (fun _ => rfl) fun _ => rfl
  · cases he
    exact h

/-! ## The manager's functions -/

/-- What the containers hold is all there is, so clearing them deletes every reference. -/
theorem Placed.clearReferences_eq (h : Placed m) : m.clearReferences =
    { m with
      refs := fun _ => none
      iThreatContainer := []
      iThreatOfflineContainer := []
      iCurrentVictim := none } := by
  have hnone : (fun r => if r ∈ m.iThreatOfflineContainer then none
      else if r ∈ m.iThreatContainer then none else m.refs r) = fun _ => none := by
    funext r
    cases hr : m.refs r with
    | none => simp
    | some ref =>
      rcases Bool.eq_false_or_eq_true ref.iOnline with hb | hb
      · simp [(h.mem_online r).2 ⟨ref, hr, hb⟩]
      · simp [(h.mem_offline r).2 ⟨ref, hr, hb⟩]
  rw [← hnone]
  rfl

theorem Placed.clearReferences (h : Placed m) : Placed m.clearReferences := by
  rw [h.clearReferences_eq]
  exact ⟨h.known.delete (fun a x ha => nomatch ha), List.nodup_nil, List.nodup_nil, by simp, by simp,
    fun r hr => nomatch hr⟩

theorem Placed.modifyThreatPercent (hk : Keeps refAddThreat) (h : Placed m) {pVictim : Nat} {pPercent : Int}
    (he : m.modifyThreatPercent o refAddThreat pVictim pPercent = some m') : Placed m' := by
  unfold ThreatManager.modifyThreatPercent at he
  split at he
  · split at he
    · cases he
      exact h.removeReference _
    · exact h.addThreatPercent hk he
  · cases he
    exact h

theorem Placed.update (h : Placed m) : Placed (m.update o) := by
  unfold ThreatManager.update
  dsimp only
  split
  · have hperm := List.mergeSort_perm m.iThreatContainer fun a b => !o.lt (m.getThreat o a) (m.getThreat o b)
    exact ⟨h.known, hperm.nodup_iff.2 h.online_nodup, h.offline_nodup,
      fun r => hperm.mem_iff.trans (h.mem_online r), h.mem_offline,
      fun r hr => hperm.mem_iff.2 (h.victim r hr)⟩
  · exact h.dirty false

theorem selectNextVictim_mem {l : List Nat} {cur next : Option Nat}
    (he : m.selectNextVictim o u l cur = some next) : ∀ c, next = some c → c ∈ l ∨ cur = some c := by
  intro c hc
  induction l generalizing cur with
  | nil =>
    cases he
    cases hc
  | cons r rest ih =>
    -- the current victim may be forgotten on the way
    have hlater : ∀ cur', (cur' = cur ∨ cur' = none) → m.selectNextVictim o u rest cur' = some next →
        c ∈ r :: rest ∨ cur = some c := by
      rintro cur' hcur he
      rcases ih he with hin | hv
      · exact .inl (List.mem_cons_of_mem _ hin)
      · rcases hcur with rfl | rfl
        · exact .inr hv
        · cases hv
    unfold selectNextVictim at he
    split at he
    · cases he
    · split at he
      · refine hlater _ ?_ he
        split
        · exact .inr rfl
        · exact .inl rfl
      · split at he
        · split at he
          · split at he
            · cases he
              exact .inr hc
            · split at he
              · cases he
                cases hc
                exact .inl List.mem_cons_self
              · exact hlater _ (.inl rfl) he
          · cases he
            cases hc
            exact .inl List.mem_cons_self
        · exact hlater _ (.inl rfl) he

theorem Placed.setVictim (h : Placed m) {next : Option Nat} (hv : ∀ c, next = some c → c ∈ m.iThreatContainer) :
    Placed { m with iCurrentVictim := next } :=
  ⟨h.known, h.online_nodup, h.offline_nodup, h.mem_online, h.mem_offline, hv⟩

theorem Placed.getHostileTarget (h : Placed m) (he : m.getHostileTarget o u = some m') : Placed m' := by
  obtain ⟨next, hnext, he⟩ := Option.bind_eq_some_iff.1 he
  have hp := h.update (o := o)
  cases he
  refine hp.setVictim fun c hc => ?_
  rcases selectNextVictim_mem hnext c hc with hin | hv
  · exact hin
  · exact hp.victim c hv

theorem Placed.tauntApply (hk : Keeps refAddThreat) (h : Placed m) {pTaunter : Nat}
    (he : m.tauntApply o refAddThreat pTaunter = some m') : Placed m' := by
  unfold ThreatManager.tauntApply at he
  split at he
  · split at he
    · exact h.setTempThreat hk he
    · cases he
      exact h
  · cases he
    exact h

theorem Placed.tauntFadeOut (hk : Keeps refAddThreat) (h : Placed m) {pTaunter : Nat}
    (he : m.tauntFadeOut o refAddThreat pTaunter = some m') : Placed m' := by
  unfold ThreatManager.tauntFadeOut at he
  split at he
  · exact h.resetTempThreat hk he
  · cases he
    exact h

theorem Placed.forceVictim (h : Placed m) (m_caster : Nat) : Placed (m.forceVictim m_caster) := by
  unfold ThreatManager.forceVictim
  split
  · next r hr =>
    refine h.setVictim fun c hc => ?_
    cases hc
    exact List.mem_of_find?_eq_some hr
  · exact h

/-! ## Operations and runs -/

theorem handleHated_placed {fuel : Nat} {op : HatedOp F} (h : Placed m) (hlink : (m.getTarget r).isSome)
    (he : m.handleHated o u fuel r op = some m') : Placed m' := by
  cases op with
  | addThreat pMod => exact addThreatOf_placed fuel _ _ _ _ h he
  | addThreatPercent pValue => exact h.addThreatPercent (addThreatOf_placed fuel) he
  | updateOnlineStatus =>
    cases he
    exact h.updateOnlineStatus r
  | setOnlineOfflineState pIsOnline =>
    cases he
    exact h.setOnlineOfflineState pIsOnline fun _ => hlink
  | deleteReference =>
    cases he
    exact h.removeReference r
  | invalidate =>
    cases he
    exact (h.invalidate r).1

/-- **One operation** keeps the invariant, in any surroundings. -/
theorem handle_placed {fuel : Nat} {op : ThreatOp F} (h : Placed m) (he : m.handle o u fuel op = some m') :
    Placed m' := by
  have hk : Keeps (addThreatOf o u fuel) := addThreatOf_placed fuel
  cases op with
  | addThreat pVictim pThreat schoolMask pThreatSpell => exact h.addThreat hk he
  | modifyThreatPercent pVictim pPercent => exact h.modifyThreatPercent hk he
  | getHostileTarget => exact h.getHostileTarget he
  | tauntApply pTaunter => exact h.tauntApply hk he
  | tauntFadeOut pTaunter => exact h.tauntFadeOut hk he
  | forceVictim m_caster =>
    cases he
    exact h.forceVictim m_caster
  | clearReferences =>
    cases he
    exact h.clearReferences
  | hated r op =>
    simp only [handle] at he
    split at he
    · next hlink => exact handleHated_placed h hlink he
    · cases he
      exact h

theorem run_placed {fuel : Nat} {ops : List (Surroundings F × ThreatOp F)} (h : Placed m)
    (he : run o fuel m ops = some m') : Placed m' := by
  induction ops generalizing m with
  | nil =>
    cases he
    exact h
  | cons op ops ih =>
    obtain ⟨u, op⟩ := op
    obtain ⟨m1, h1, he⟩ := Option.bind_eq_some_iff.1 he
    exact ih (handle_placed h h1) he

theorem Placed.count_online (h : Placed m) (hr : m.refs r = some ref) :
    m.iThreatContainer.count r = if ref.iOnline then 1 else 0 := by
  split
  · next hon => exact List.count_eq_one_of_mem h.online_nodup ((h.mem_online r).2 ⟨ref, hr, hon⟩)
  · next hoff => exact List.count_eq_zero.2 (h.not_online hr (by simpa using hoff))

theorem Placed.count_offline (h : Placed m) (hr : m.refs r = some ref) :
    m.iThreatOfflineContainer.count r = if ref.iOnline then 0 else 1 := by
  split
  · next hon => exact List.count_eq_zero.2 (h.not_offline hr hon)
  · next hoff =>
    exact List.count_eq_one_of_mem h.offline_nodup ((h.mem_offline r).2 ⟨ref, hr, by simpa using hoff⟩)

theorem Placed.live (h : Placed m) (hr : r ∈ m.iThreatContainer ∨ r ∈ m.iThreatOfflineContainer) :
    (m.refs r).isSome := by
  rcases hr with hr | hr
  · obtain ⟨ref, hr, -⟩ := (h.mem_online r).1 hr
    simp [hr]
  · obtain ⟨ref, hr, -⟩ := (h.mem_offline r).1 hr
    simp [hr]

/-- **The containers are consistent** after every run: a reference is once in the container its online
flag names and not in the other, and the containers hold no other pointers; a unit has one reference at
most; the current victim is a reference of the online container. -/
theorem containers_consistent (o : FloatOps F) (fuel iOwner : Nat) (ops : List (Surroundings F × ThreatOp F))
    (m : ThreatManager F) (hrun : run o fuel { iOwner := iOwner } ops = some m) :
    (∀ r ref, m.refs r = some ref → m.iThreatContainer.count r = (if ref.iOnline then 1 else 0) ∧
        m.iThreatOfflineContainer.count r = (if ref.iOnline then 0 else 1)) ∧
      (∀ r, r ∈ m.iThreatContainer ∨ r ∈ m.iThreatOfflineContainer → (m.refs r).isSome) ∧
      (∀ r r' ref ref', m.refs r = some ref → m.refs r' = some ref' → ref.iUnitGuid = ref'.iUnitGuid → r = r') ∧
      (∀ r, m.iCurrentVictim = some r → r ∈ m.iThreatContainer) := by
  have h := run_placed (placed_new iOwner) hrun
  exact ⟨fun r ref hr => ⟨h.count_online hr, h.count_offline hr⟩, fun r hr => h.live hr, h.known.single,
    h.victim⟩

/-- Hundredths, for a `float` with few digits. -/
def hundredths : FloatOps Int where
  zero := 0
  add := (· + ·)
  sub := (· - ·)
  mul := fun a b => a * b / 100
  div := fun a b => a * 100 / b
  neg := fun a => -a
  ofInt := fun n => n * 100
  lt := fun a b => decide (a < b)
  le := fun a b => decide (a ≤ b)
  eq := fun a b => decide (a = b)
  oneOne := 110
  oneThree := 130

/-- A wolf 1, a hunter 4 with a pet 3, and a warrior 2 to whom the hunter misdirects. -/
def wolfPlace : Surroundings Int where
  isAlive := fun _ => true
  isPlayer := fun t => t == 2 || t == 4
  isGameMaster := fun _ => false
  inFlight := fun _ => false
  getUnit := fun _ => true
  isInAccessiblePlace := fun _ => true
  isWithinCombatRange := fun _ => false
  getCharmerOrOwner := fun t => if t = 3 then some 4 else none
  applySpellMod := fun _ _ threat => threat
  applyTotalThreatModifier := fun _ threat _ => threat
  getReducedThreatPercent := fun t => if t = 4 then 100 else 0
  getMisdirectionTarget := fun t => if t = 4 then some 2 else none
  isImmunedToDamage := fun _ => false
  isConfused := fun _ => false
  isOutOfThreatArea := fun _ => false
  isWithinMeleeRange := fun _ => true

/-- The pet bites, the hunter shoots, the wolf turns to the pet, the warrior takes off, the pet is out of
reach, the hunter leaves the game and comes back. -/
def wolfFight : List (ThreatOp Int) :=
  [.addThreat (some 3) 1000 1 none, .addThreat (some 4) 700 1 none, .forceVictim 3,
    .hated 2 (.setOnlineOfflineState false), .modifyThreatPercent 3 (-101), .hated 1 .invalidate,
    .addThreat (some 4) 0 1 none]

def afterWolfFight : ThreatManager Int :=
  (run hundredths 3 { iOwner := 1 } (wolfFight.map fun op => (wolfPlace, op))).getD { iOwner := 0 }

theorem containers_consistent_sample :
    afterWolfFight.iThreatContainer = [1] ∧ afterWolfFight.iThreatOfflineContainer = [2] ∧
      afterWolfFight.iCurrentVictim = none ∧
      (∀ r ref, afterWolfFight.refs r = some ref →
        afterWolfFight.iThreatContainer.count r = (if ref.iOnline then 1 else 0) ∧
          afterWolfFight.iThreatOfflineContainer.count r = (if ref.iOnline then 0 else 1)) :=
  ⟨by decide, by decide, by decide, (containers_consistent hundredths 3 1
    (wolfFight.map fun op => (wolfPlace, op)) afterWolfFight rfl).1⟩

/-! ## Operations return -/

@[simp] theorem processThreatEvent_refs (m : ThreatManager F) (e : ThreatRefStatusChangeEvent F) :
    (m.processThreatEvent o e).refs = m.refs := by
  cases e with
  | threatChange r fValue =>
    rw [processThreatEvent.eq_1]
    split <;> rfl
  | onlineStatus r =>
    rw [processThreatEvent.eq_2]
    split
    · dsimp only
      split <;> rfl
    · dsimp only
      split
      · split <;> rfl
      · rfl
  | accessibleStatus r => rfl
  | removeFromList r =>
    rw [processThreatEvent.eq_4]
    split <;> split <;> rfl

/-- The unit a reference was made for. -/
def guidOf (m : ThreatManager F) (r : Nat) : Option Nat := (m.refs r).map (·.iUnitGuid)

theorem guidOf_setRef (m : ThreatManager F) (r : Nat) {f : HostileReference F → HostileReference F}
    (hguid : ∀ ref, (f ref).iUnitGuid = ref.iUnitGuid) : (m.setRef r f).guidOf r = m.guidOf r := by
  cases hr : m.refs r with
  | none => simp [setRef, hr]
  | some ref => simp [setRef_eq hr, guidOf, hr, hguid]

theorem guidOf_setAccessibleState (m : ThreatManager F) (r : Nat) (b : Bool) :
    (m.setAccessibleState o r b).guidOf r = m.guidOf r := by
  cases hr : m.refs r with
  | none => simp [setAccessibleState, hr]
  | some ref => simp [setAccessibleState_eq hr, guidOf, hr]

theorem guidOf_setOnlineOfflineState (m : ThreatManager F) (r : Nat) (b : Bool) :
    (m.setOnlineOfflineState o r b).guidOf r = m.guidOf r := by
  unfold setOnlineOfflineState
  split
  · split
    · rw [guidOf, processThreatEvent_refs, ← guidOf]
      split
      · rw [guidOf_setAccessibleState, guidOf_setRef]
        exact fun _ => rfl
      · rw [guidOf_setRef]
        exact fun _ => rfl
    · rfl
  · rfl

theorem guidOf_updateOnlineStatus (m : ThreatManager F) (r : Nat) :
    (m.updateOnlineStatus o u r).guidOf r = m.guidOf r := by
  rw [updateOnlineStatus, guidOf_setOnlineOfflineState, guidOf_setAccessibleState]
  unfold relink
  split
  · split
    · exact guidOf_setRef m r fun _ => rfl
    · rfl
  · rfl

theorem guidOf_changeThreat (m : ThreatManager F) (r : Nat) (pMod : F) :
    (m.changeThreat o u r pMod).guidOf r = m.guidOf r := by
  have hset : (m.setRef r fun ref => { ref with iThreat := o.add ref.iThreat pMod }).guidOf r = m.guidOf r :=
    guidOf_setRef m r fun _ => rfl
  unfold changeThreat
  dsimp only
  rw [← hset]
  split <;> split
  · rw [guidOf, processThreatEvent_refs, ← guidOf, guidOf_updateOnlineStatus]
  · rw [guidOf, processThreatEvent_refs, ← guidOf]
  · rw [guidOf_updateOnlineStatus]
  · rfl

theorem Placed.target_eq (h : Placed m) {t : Nat} (ht : m.getTarget r = some t) : m.guidOf r = some t := by
  obtain ⟨ref, hr, hto⟩ := Option.bind_eq_some_iff.1 ht
  rcases h.known.tied r ref hr with hguid | ⟨hnone, -⟩
  · rw [hto, Option.some.injEq] at hguid
    simp [guidOf, hr, hguid]
  · rw [hto] at hnone
    cases hnone

/-- The function returns for every reference of this unit. -/
def Returns (refAddThreat : AddsThreat F) (guid : Nat) : Prop :=
  ∀ m r pMod, Placed m → m.guidOf r = some guid → ∃ m', refAddThreat m r pMod = some m'

theorem guidOf_getReferenceByTarget {iThreatList : List Nat} {guid : Nat}
    (hr : m.getReferenceByTarget iThreatList guid = some r) : m.guidOf r = some guid := by
  have hfound := List.find?_some hr
  cases hx : m.refs r with
  | none => simp [hx] at hfound
  | some ref => simpa [guidOf, hx] using hfound

theorem addThreatTo_returns {pVictim : Nat} {threat : F} (hret : Returns refAddThreat pVictim) (h : Placed m) :
    ∃ m', m.addThreatTo o u refAddThreat pVictim threat = some m' := by
  unfold addThreatTo
  split
  · next r hr => exact hret _ _ _ h (guidOf_getReferenceByTarget hr)
  · next hon =>
    split
    · next r hr => exact hret _ _ _ h (guidOf_getReferenceByTarget hr)
    · next hoff =>
      have hp := h.newReference (o := o) (h.no_ref hon hoff)
      obtain ⟨m1, h1⟩ := hret _ m.nextRef threat hp (by simp [guidOf, newReference])
      simp only [h1, Option.bind_eq_bind, Option.bind_some]
      split <;> exact ⟨_, rfl⟩

/-- No threat comes of no threat: the source's guard against a dead loop. -/
def Quiet (o : FloatOps F) (u : Surroundings F) : Prop :=
  ∀ v, o.lt o.zero (calcThreat u v o.zero SPELL_SCHOOL_MASK_NORMAL none) = false

theorem addThreat_owner_returns (hq : Quiet o u) {v : Nat} (hret : Returns refAddThreat v) (h : Placed m) :
    ∃ m', m.addThreat o u refAddThreat (some v) o.zero SPELL_SCHOOL_MASK_NORMAL none = some m' := by
  simp only [addThreat]
  split
  · exact ⟨_, rfl⟩
  · split
    · exact ⟨_, rfl⟩
    · split
      · exact ⟨_, rfl⟩
      · simp only [addMisdirected, hq v, Bool.false_and, Bool.false_eq_true, if_false, Option.bind_eq_bind,
          Option.bind_some]
        exact addThreatTo_returns hret h

/-- **Threat of a reference returns** when the owners of its unit come to an end within the depth. -/
theorem addThreatOf_returns (hq : Quiet o u) {rank : Nat → Nat}
    (hrank : ∀ t v, u.getCharmerOrOwner t = some v → rank v < rank t) (fuel guid : Nat)
    (hfuel : rank guid < fuel) : Returns (addThreatOf o u fuel) guid := by
  induction fuel generalizing guid with
  | zero => omega
  | succ fuel ih =>
    intro m r pMod h hguid
    have hp := h.changeThreat (o := o) (u := u) r pMod
    simp only [addThreatOf]
    split
    · next t ht =>
      have hsame := hp.target_eq ht
      rw [guidOf_changeThreat, hguid, Option.some.injEq] at hsame
      split
      · split
        · next v hv =>
          split
          · have hlt := hrank t v hv
            rw [← hsame] at hlt
            exact addThreat_owner_returns hq (ih v (by omega)) hp
          · exact ⟨_, rfl⟩
        · exact ⟨_, rfl⟩
      · exact ⟨_, rfl⟩
    · exact ⟨_, rfl⟩

theorem addThreat_returns (hret : ∀ guid, Returns refAddThreat guid) (hk : Keeps refAddThreat) (h : Placed m)
    (pVictim : Option Nat) (pThreat : F) (schoolMask : Nat) (pThreatSpell : Option Nat) :
    ∃ m', m.addThreat o u refAddThreat pVictim pThreat schoolMask pThreatSpell = some m' := by
  unfold addThreat
  split
  · exact ⟨_, rfl⟩
  · next victim =>
    split
    · exact ⟨_, rfl⟩
    · split
      · exact ⟨_, rfl⟩
      · split
        · exact ⟨_, rfl⟩
        · -- the misdirected share first
          have hmis : ∃ p, m.addMisdirected o u refAddThreat victim
              (calcThreat u victim pThreat schoolMask pThreatSpell) = some p := by
            unfold addMisdirected
            dsimp only
            split
            · split
              · next unit _ =>
                generalize o.div (o.mul (calcThreat u victim pThreat schoolMask pThreatSpell)
                  (o.ofInt (u.getReducedThreatPercent victim))) (o.ofInt 100) = reduced
                have hto : ∃ m', m.addThreatTo o u refAddThreat unit reduced = some m' :=
                  addThreatTo_returns (hret unit) h
                obtain ⟨m1, h1⟩ := hto
                rw [h1]
                exact ⟨_, rfl⟩
              · exact ⟨_, rfl⟩
            · exact ⟨_, rfl⟩
          obtain ⟨⟨m1, rest⟩, h1⟩ := hmis
          simp only [h1, Option.bind_eq_bind, Option.bind_some]
          exact addThreatTo_returns (hret victim) (h.addMisdirected hk h1)

/-- The references of the online container are linked, so the assertion on their targets holds. -/
theorem selectNextVictim_returns {l : List Nat} (hl : ∀ r ∈ l, (m.getTarget r).isSome) (cur : Option Nat) :
    ∃ next, m.selectNextVictim o u l cur = some next := by
  induction l generalizing cur with
  | nil => exact ⟨none, rfl⟩
  | cons r rest ih =>
    obtain ⟨t, ht⟩ := Option.isSome_iff_exists.1 (hl r List.mem_cons_self)
    have ih := ih fun a ha => hl a (List.mem_cons_of_mem _ ha)
    unfold selectNextVictim
    simp only [ht]
    split
    · exact ih _
    · split
      · split
        · split
          · exact ⟨_, rfl⟩
          · split
            · exact ⟨_, rfl⟩
            · exact ih _
        · exact ⟨_, rfl⟩
      · exact ih _

theorem getHostileTarget_returns (h : Placed m) : ∃ m', m.getHostileTarget o u = some m' := by
  have hp := h.update (o := o)
  obtain ⟨next, hnext⟩ := selectNextVictim_returns (o := o) (u := u) (m := m.update o)
    (l := (m.update o).iThreatContainer) (fun r hr => by
      obtain ⟨ref, hr, hon⟩ := (hp.mem_online r).1 hr
      rcases hp.known.tied r ref hr with ht | ⟨-, hoff⟩
      · simp [getTarget, hr, ht]
      · rw [hon] at hoff
        cases hoff) (m.update o).iCurrentVictim
  simp only [getHostileTarget, hnext, Option.bind_eq_bind, Option.bind_some]
  exact ⟨_, rfl⟩

/-- The owners of owners come to an end within the depth. -/
def Ends (o : FloatOps F) (u : Surroundings F) (fuel : Nat) : Prop :=
  Quiet o u ∧ ∃ rank : Nat → Nat, ∀ t, rank t < fuel ∧ ∀ v, u.getCharmerOrOwner t = some v → rank v < rank t

theorem Ends.returns {fuel : Nat} (he : Ends o u fuel) (guid : Nat) : Returns (addThreatOf o u fuel) guid := by
  obtain ⟨hq, rank, hrank⟩ := he
  exact addThreatOf_returns hq (fun t v hv => (hrank t).2 v hv) fuel guid (hrank guid).1

theorem Ends.addThreatOf_returns {fuel : Nat} (he : Ends o u fuel) (h : Placed m)
    (hr : m.refs r = some ref) (pMod : F) : ∃ m', addThreatOf o u fuel m r pMod = some m' :=
  he.returns ref.iUnitGuid m r pMod h (by simp [guidOf, hr])

theorem Placed.found (h : Placed m) {guid : Nat}
    (hr : m.getReferenceByTarget m.iThreatContainer guid = some r) : ∃ ref, m.refs r = some ref :=
  Option.isSome_iff_exists.1 (h.live (.inl (List.mem_of_find?_eq_some hr)))

/-- **An operation returns**, in surroundings where the owners of owners come to an end. -/
theorem handle_returns {fuel : Nat} (he : Ends o u fuel) (h : Placed m) (op : ThreatOp F) :
    ∃ m', m.handle o u fuel op = some m' := by
  cases op with
  | addThreat pVictim pThreat schoolMask pThreatSpell =>
    exact addThreat_returns he.returns (addThreatOf_placed fuel) h pVictim pThreat schoolMask pThreatSpell
  | modifyThreatPercent pVictim pPercent =>
    simp only [handle, modifyThreatPercent]
    split
    · next r hr =>
      obtain ⟨ref, hr⟩ := h.found hr
      split
      · exact ⟨_, rfl⟩
      · exact he.addThreatOf_returns h hr _
    · exact ⟨_, rfl⟩
  | getHostileTarget => exact getHostileTarget_returns h
  | tauntApply pTaunter =>
    simp only [handle, tauntApply]
    split
    · next r c hr hc =>
      obtain ⟨ref, hr⟩ := h.found hr
      split
      · unfold setTempThreat
        dsimp only
        split
        · have hp : Placed (m.setRef r fun ref =>
              { ref with iTempThreatModifyer := o.sub (m.getThreat o c) (m.getThreat o r) }) :=
            h.setRef _ (fun _ => rfl) (fun _ => rfl) fun _ => rfl
          refine he.returns ref.iUnitGuid _ r _ hp ?_
          rw [guidOf_setRef]
          · simp [guidOf, hr]
          · exact fun _ => rfl
        · exact ⟨_, rfl⟩
      · exact ⟨_, rfl⟩
    · exact ⟨_, rfl⟩
  | tauntFadeOut pTaunter =>
    simp only [handle, tauntFadeOut]
    split
    · next r hr =>
      obtain ⟨ref, hr⟩ := h.found hr
      unfold resetTempThreat
      split
      · obtain ⟨m1, h1⟩ := he.addThreatOf_returns h hr (o.neg (m.getTempThreatModifyer o r))
        simp only [h1, Option.bind_eq_bind, Option.bind_some]
        exact ⟨_, rfl⟩
      · exact ⟨_, rfl⟩
    · exact ⟨_, rfl⟩
  | forceVictim m_caster => exact ⟨_, rfl⟩
  | clearReferences => exact ⟨_, rfl⟩
  | hated r op =>
    simp only [handle]
    split
    · next hlink =>
      obtain ⟨t, ht⟩ := Option.isSome_iff_exists.1 hlink
      obtain ⟨ref, hr, -⟩ := Option.bind_eq_some_iff.1 ht
      cases op with
      | addThreat pMod => exact he.addThreatOf_returns h hr _
      | addThreatPercent pValue => exact he.addThreatOf_returns h hr _
      | updateOnlineStatus => exact ⟨_, rfl⟩
      | setOnlineOfflineState pIsOnline => exact ⟨_, rfl⟩
      | deleteReference => exact ⟨_, rfl⟩
      | invalidate => exact ⟨_, rfl⟩
    · exact ⟨_, rfl⟩

/-- **Every run returns**, in such surroundings. -/
theorem run_returns {fuel : Nat} {ops : List (Surroundings F × ThreatOp F)} (h : Placed m)
    (he : ∀ p ∈ ops, Ends o p.1 fuel) : ∃ m', run o fuel m ops = some m' := by
  induction ops generalizing m with
  | nil => exact ⟨m, rfl⟩
  | cons p ops ih =>
    obtain ⟨m1, h1⟩ := handle_returns (he p List.mem_cons_self) h p.2
    obtain ⟨m2, h2⟩ := ih (handle_placed h h1) fun q hq => he q (List.mem_cons_of_mem _ hq)
    exact ⟨m2, by simp only [run, h1, Option.bind_some, h2]⟩

theorem run_returns_sample :
    ∃ m', run hundredths 3 { iOwner := 1 } (wolfFight.map fun op => (wolfPlace, op)) = some m' := by
  refine run_returns (placed_new 1) fun p hp => ?_
  obtain ⟨op, -, rfl⟩ := List.mem_map.1 hp
  refine ⟨fun v => rfl, fun t => if t = 3 then 1 else 0, fun t => ⟨by grind, fun v hv => ?_⟩⟩
  dsimp only [wolfPlace] at hv
  grind

end ThreatManager

end BlizzLike
