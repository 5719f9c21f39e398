import BlizzLikeCore.Mail.Mailboxes

/-!
# What is attached

The item objects of a mailbox should be those attached to its live mails, each to one; a mail that
is deleted should stay so; and a mail that is returned should arrive whole.  This holds along every
run in which no deleted mail is marked as read and each item is taken from the mail it is in
(`attachments_kept`), of `mMitems` in the one direction at first: a mail that is deleted, or of
another type than `MAIL_NORMAL` and returned, leaves its items there.

A returned mail of another type is dropped (`return_drops`); reading a deleted mail brings it back.
-/

namespace BlizzLike

/-- What happens to the mailboxes: `SendMailTo` from anywhere, and the requests of the clients. -/
inductive BoxRequest where
  | arrive (rc : Nat) (messageType : MailMessageType) (senderId : Nat) (draft : MailDraft)
      (checked deliverDelay : Nat)
  | markAsRead (pl mailId : Nat)
  | mailDelete (pl mailId : Nat)
  | returnToSender (pl mailId : Nat)
  | takeItem (pl mailId itemId : Nat)
  | takeMoney (pl mailId : Nat)
  | saveMail (pl : Nat)
  | tick (diff : Nat)

/-- It can go back to a player. -/
def Mail.FromPlayer (m : Mail) : Prop := m.messageType = .normal ∧ m.sender ≠ 0

namespace PostOffice

open Transition (Along)

def boxStep (cfg : MailConfig) (w : PostOffice) : BoxRequest → PostOffice
  | .arrive rc messageType senderId draft checked deliverDelay =>
    w.sendMailTo cfg rc messageType senderId draft checked deliverDelay
  | .markAsRead pl mailId => w.handleMarkAsRead pl mailId
  | .mailDelete pl mailId => w.handleMailDelete pl mailId
  | .returnToSender pl mailId => w.handleReturnToSender cfg pl mailId
  | .takeItem pl mailId itemId => w.handleTakeItem cfg pl mailId itemId
  | .takeMoney pl mailId => w.handleTakeMoney pl mailId
  | .saveMail pl => w.saveMail pl
  | .tick diff => { w with time := w.time + diff }

/-! ## The law -/

/-- The item is attached to a mail in the box that is not deleted. -/
def Attached (w : PostOffice) (p g : Nat) : Prop := ∃ m ∈ w.mails p, m.state ≠ .deleted ∧ g ∈ m.items

/-- A mail of this id is live. -/
def Live (w : PostOffice) (id : Nat) : Prop := ∃ p, ∃ m ∈ w.mails p, m.messageID = id ∧ m.state ≠ .deleted

/-- The boxes in order, every attached item with its object. -/
structure Boxed (w : PostOffice) : Prop where
  boxes : Boxes w.mails w.nextMailId
  held : ∀ p g, w.Attached p g → w.mMitems p g = true

/-- **The law** for `mMitems`: exactly the attached items. -/
structure Loaded (w : PostOffice) : Prop extends Boxed w where
  covered : ∀ p g, w.mMitems p g = true → w.Attached p g

/-- The mail that a returned one comes to. -/
def returnedMail (cfg : MailConfig) (w : PostOffice) (pl : Nat) (m : Mail) : Mail :=
  w.newMail m.sender .normal m.receiver
    { mailTemplateId := m.mailTemplateId, bodyId := if m.mailTemplateId ≠ 0 then 0 else m.itemTextId
      items := m.items, money := m.money }
    mailCheckMaskReturned
    (if m.items ≠ [] ∧ cfg.accountOf pl ≠ cfg.accountOf m.sender then cfg.mailDeliveryDelay else 0)

/-- All of the mail, and nothing else, has moved into one new mail in its sender's box. -/
structure Returned (cfg : MailConfig) (w t : PostOffice) (pl : Nat) (m : Mail) : Prop where
  mails : t.mails = Function.update (w.removeMail pl m.messageID).mails m.sender
    (w.returnedMail cfg pl m :: (w.removeMail pl m.messageID).mails m.sender)
  moved : ∀ p g, t.mMitems p g = true ↔
    (p = m.sender ∧ g ∈ m.items) ∨ (w.mMitems p g = true ∧ ¬ (p = pl ∧ g ∈ m.items))
  money : t.money = w.money

/-- The mail is gone, and nothing was sent. -/
structure Dropped (w t : PostOffice) (pl : Nat) (m : Mail) : Prop where
  mails : t.mails = (w.removeMail pl m.messageID).mails
  money : t.money = w.money

/-- **The law** for one request. -/
structure KeepsAttached (cfg : MailConfig) (w : PostOffice) (r : BoxRequest) : Prop where
  held : ∀ p g, (w.boxStep cfg r).Attached p g → (w.boxStep cfg r).mMitems p g = true
  alone : ∀ p m p' m' g, m ∈ (w.boxStep cfg r).mails p → m' ∈ (w.boxStep cfg r).mails p' → g ∈ m.items →
    g ∈ m'.items → p = p' ∧ m = m'
  faded : ∀ id < w.nextMailId, ¬ w.Live id → ¬ (w.boxStep cfg r).Live id
  returned : ∀ pl mailId m, r = .returnToSender pl mailId → w.openMail pl mailId = some m →
    (m.FromPlayer → Reaches cfg m.sender → Returned cfg w (w.boxStep cfg r) pl m) ∧
      (¬ m.FromPlayer → Dropped w (w.boxStep cfg r) pl m)

/-- A request that does not meet a slip: arriving items are in no mailbox, no deleted mail is marked as
read, and an item is taken from the mail it is in. -/
def HeedfulBox (w : PostOffice) : BoxRequest → Prop
  | .arrive _ _ _ draft _ _ => draft.items.Nodup ∧ ∀ p n g, n ∈ w.mails p → g ∈ n.items → g ∉ draft.items
  | .markAsRead pl mailId => ∀ m, w.getMail pl mailId = some m → m.state ≠ .deleted
  | .takeItem pl mailId itemId => ∀ m, w.openMail pl mailId = some m → w.mMitems pl itemId = true → itemId ∈ m.items
  | _ => True

/-- The request does not leave items without a mail in `mMitems`. -/
def Clean (w : PostOffice) : BoxRequest → Prop
  | .mailDelete pl mailId => ∀ m, w.getMail pl mailId = some m → m.cod = 0 → m.items = []
  | .returnToSender pl mailId => ∀ m, w.openMail pl mailId = some m → m.FromPlayer ∨ m.items = []
  | _ => True

/-! ## Changes of the boxes -/

section
variable {cfg : MailConfig} {w v t : PostOffice} {pl mailId : Nat} {m : Mail}

theorem Boxes.only (hb : Boxes w.mails w.nextMailId) (hm : m ∈ w.mails pl) {p : Nat} {n : Mail} (hn : n ∈ w.mails p)
    (h : n.messageID = m.messageID) : p = pl ∧ n = m := by
  obtain rfl := hb.apart p n pl m hn hm h
  exact ⟨rfl, hb.eq_of_id hn hm h⟩

theorem mem_updateMail {f : Mail → Mail} (hb : Boxes w.mails w.nextMailId) (hm : m ∈ w.mails pl)
    (p : Nat) (n : Mail) : n ∈ (w.updateMail pl m.messageID f).mails p ↔
      (p = pl ∧ n = f m) ∨ (n ∈ w.mails p ∧ n.messageID ≠ m.messageID) := by
  unfold updateMail
  simp only [Function.update_apply]
  split
  · next hp =>
    subst hp
    rw [List.mem_map]
    constructor
    · rintro ⟨k, hk, rfl⟩
      split
      · next heq => exact Or.inl ⟨rfl, by rw [(Boxes.only hb hm hk heq).2]⟩
      · next hne => exact Or.inr ⟨hk, hne⟩
    · rintro (⟨_, rfl⟩ | ⟨hn, hne⟩)
      · exact ⟨m, hm, if_pos rfl⟩
      · exact ⟨n, hn, if_neg hne⟩
  · next hp =>
    refine ⟨fun hn => Or.inr ⟨hn, fun heq => hp (Boxes.only hb hm hn heq).1⟩, ?_⟩
    rintro (⟨rfl, _⟩ | ⟨hn, _⟩)
    · exact absurd rfl hp
    · exact hn

theorem boxes_updateMail {f : Mail → Mail} (hb : Boxes w.mails w.nextMailId) (hf : ∀ m : Mail, m.Reduced (f m)) :
    Boxes (w.updateMail pl mailId f).mails w.nextMailId := by
  refine hb.shrink (fun p => ?_) fun p m' hm' => ?_
  · rw [updateMail_ids pl mailId f (fun m => (hf m).id)]
  · rcases updateMail_origin pl mailId f p m' hm' with ⟨h, _⟩ | ⟨rfl, m, hm, _, rfl⟩
    · exact ⟨m', h, Mail.Reduced.refl m'⟩
    · exact ⟨m, hm, hf m⟩

theorem attached_updateMail {f : Mail → Mail} (hb : Boxes w.mails w.nextMailId) (hm : m ∈ w.mails pl) (p g : Nat) :
    (w.updateMail pl m.messageID f).Attached p g ↔
      (p = pl ∧ (f m).state ≠ .deleted ∧ g ∈ (f m).items) ∨ (w.Attached p g ∧ ¬ (p = pl ∧ g ∈ m.items)) := by
  unfold Attached
  constructor
  · rintro ⟨n, hn, hlive, hg⟩
    rcases (mem_updateMail hb hm p n).1 hn with ⟨rfl, rfl⟩ | ⟨hn, hne⟩
    · exact Or.inl ⟨rfl, hlive, hg⟩
    · exact Or.inr ⟨⟨n, hn, hlive, hg⟩, fun h => hne (hb.alone p n pl m g hn hm hg h.2)⟩
  · rintro (⟨rfl, hlive, hg⟩ | ⟨⟨n, hn, hlive, hg⟩, hnot⟩)
    · exact ⟨f m, (mem_updateMail hb hm p _).2 (Or.inl ⟨rfl, rfl⟩), hlive, hg⟩
    · refine ⟨n, (mem_updateMail hb hm p n).2 (Or.inr ⟨hn, fun heq => hnot ?_⟩), hlive, hg⟩
      obtain ⟨hp, rfl⟩ := Boxes.only hb hm hn heq
      exact ⟨hp, hg⟩

theorem attached_of_live (hm : m ∈ w.mails pl) (hlive : m.state ≠ .deleted) {g : Nat} (hg : g ∈ m.items) :
    w.Attached pl g := ⟨m, hm, hlive, hg⟩

theorem attached_updateMail_same {f : Mail → Mail} (hb : Boxes w.mails w.nextMailId) (hm : m ∈ w.mails pl)
    (hlive : m.state ≠ .deleted) (hstate : (f m).state ≠ .deleted) (hitems : (f m).items = m.items) (p g : Nat) :
    (w.updateMail pl m.messageID f).Attached p g ↔ w.Attached p g := by
  rw [attached_updateMail hb hm, hitems]
  constructor
  · rintro (⟨rfl, _, hg⟩ | ⟨ha, _⟩)
    · exact attached_of_live hm hlive hg
    · exact ha
  · intro ha
    by_cases hin : p = pl ∧ g ∈ m.items
    · exact Or.inl ⟨hin.1, hstate, hin.2⟩
    · exact Or.inr ⟨ha, hin⟩

theorem attached_removeMail (hb : Boxes w.mails w.nextMailId) (hm : m ∈ w.mails pl) (p g : Nat) :
    (w.removeMail pl m.messageID).Attached p g ↔ w.Attached p g ∧ ¬ (p = pl ∧ g ∈ m.items) := by
  have hmem : ∀ p n, n ∈ (w.removeMail pl m.messageID).mails p ↔ n ∈ w.mails p ∧ n.messageID ≠ m.messageID := by
    intro p n
    by_cases hp : p = pl
    · subst hp
      exact mem_removeMail (hb.ids p) n
    · have hsame : (w.removeMail pl m.messageID).mails p = w.mails p := Function.update_of_ne hp _ _
      rw [hsame]
      exact ⟨fun hn => ⟨hn, fun heq => hp (Boxes.only hb hm hn heq).1⟩, And.left⟩
  unfold Attached
  constructor
  · rintro ⟨n, hn, hlive, hg⟩
    obtain ⟨hn, hne⟩ := (hmem p n).1 hn
    exact ⟨⟨n, hn, hlive, hg⟩, fun h => hne (hb.alone p n pl m g hn hm hg h.2)⟩
  · rintro ⟨⟨n, hn, hlive, hg⟩, hnot⟩
    refine ⟨n, (hmem p n).2 ⟨hn, fun heq => hnot ?_⟩, hlive, hg⟩
    obtain ⟨hp, rfl⟩ := Boxes.only hb hm hn heq
    exact ⟨hp, hg⟩

theorem attached_sendMailTo (rc : Nat) (messageType : MailMessageType) (senderId : Nat) (draft : MailDraft)
    (checked deliverDelay p g : Nat) :
    (w.sendMailTo cfg rc messageType senderId draft checked deliverDelay).Attached p g ↔
      w.Attached p g ∨ (rc ≠ cfg.ahbplayerGUID ∧ p = rc ∧ g ∈ draft.items) := by
  unfold sendMailTo
  split
  · next hrc =>
    have hsame : ∀ v : PostOffice, v.mails = w.mails → (v.Attached p g ↔ w.Attached p g ∨
        (rc ≠ cfg.ahbplayerGUID ∧ p = rc ∧ g ∈ draft.items)) := by
      intro v hv
      unfold Attached
      rw [hv]
      exact ⟨Or.inl, fun h => h.resolve_right fun h => h.1 hrc⟩
    split
    · exact hsame _ rfl
    · exact hsame _ rfl
  · next hrc =>
    unfold Attached
    simp only [Function.update_apply]
    split
    · next hp =>
      subst hp
      simp only [List.mem_cons, exists_eq_or_imp]
      constructor
      · rintro (⟨_, hg⟩ | h)
        · exact Or.inr ⟨hrc, trivial, hg⟩
        · exact Or.inl h
      · rintro (h | ⟨_, _, hg⟩)
        · exact Or.inr h
        · exact Or.inl ⟨by simp [newMail], hg⟩
    · next hp => exact ⟨Or.inl, fun h => h.resolve_right fun h => hp h.2.1⟩

theorem attached_saveMail (p g : Nat) : (w.saveMail pl).Attached p g ↔ w.Attached p g := by
  unfold Attached saveMail
  simp only [Function.update_apply]
  split
  · next hp =>
    subst hp
    constructor
    · rintro ⟨n, hn, hlive, hg⟩
      obtain ⟨m, hm, rfl⟩ := List.mem_map.1 (List.mem_filter.1 hn).1
      split at hlive
      · next hstate => exact ⟨m, hm, by rw [hstate]; simp, by simpa [hstate] using hg⟩
      · next hstate => exact ⟨m, hm, hlive, by simpa [hstate] using hg⟩
    · rintro ⟨m, hm, hlive, hg⟩
      refine ⟨_, List.mem_filter.2 ⟨List.mem_map_of_mem hm, ?_⟩, ?_, ?_⟩
      · split <;> simp [hlive]
      · split <;> simp [hlive]
      · split <;> exact hg
  · exact Iff.rfl

/-! ## Live mails -/

/-- No mail that was not live is. -/
structure Fades (w t : PostOffice) : Prop where
  next : w.nextMailId ≤ t.nextMailId
  live : ∀ id < w.nextMailId, t.Live id → w.Live id

theorem Fades.trans (h1 : Fades w v) (h2 : Fades v t) : Fades w t :=
  ⟨Nat.le_trans h1.next h2.next, fun id hid hl =>
    h1.live id hid (h2.live id (Nat.lt_of_lt_of_le hid h1.next) hl)⟩

theorem fades_of_mails (hm : t.mails = w.mails) (hn : t.nextMailId = w.nextMailId) : Fades w t := by
  refine ⟨Nat.le_of_eq hn.symm, fun id _ hl => ?_⟩
  unfold Live at hl
  rw [hm] at hl
  exact hl

theorem fades_updateMail {f : Mail → Mail} (hb : Boxes w.mails w.nextMailId) (hm : m ∈ w.mails pl)
    (hid : (f m).messageID = m.messageID) (hf : (f m).state ≠ .deleted → m.state ≠ .deleted) :
    Fades w (w.updateMail pl m.messageID f) := by
  refine ⟨Nat.le_refl _, fun id _ hl => ?_⟩
  obtain ⟨p, n, hn, hnid, hlive⟩ := hl
  rcases (mem_updateMail hb hm p n).1 hn with ⟨rfl, rfl⟩ | ⟨hn, _⟩
  · exact ⟨p, m, hm, hid.symm.trans hnid, hf hlive⟩
  · exact ⟨p, n, hn, hnid, hlive⟩

theorem fades_removeMail : Fades w (w.removeMail pl mailId) := by
  refine ⟨Nat.le_refl _, fun id _ hl => ?_⟩
  obtain ⟨p, n, hn, hnid, hlive⟩ := hl
  unfold removeMail at hn
  simp only [Function.update_apply] at hn
  split at hn
  · next hp => exact ⟨p, n, hp ▸ List.mem_of_mem_eraseP hn, hnid, hlive⟩
  · exact ⟨p, n, hn, hnid, hlive⟩

theorem fades_saveMail : Fades w (w.saveMail pl) := by
  refine ⟨Nat.le_refl _, fun id _ hl => ?_⟩
  obtain ⟨p, n, hn, hnid, hlive⟩ := hl
  unfold saveMail at hn
  simp only [Function.update_apply] at hn
  split at hn
  · next hp =>
    subst hp
    obtain ⟨k, hk, rfl⟩ := List.mem_map.1 (List.mem_filter.1 hn).1
    split at hlive
    · next hstate => exact ⟨p, k, hk, by simpa [hstate] using hnid, by rw [hstate]; simp⟩
    · next hstate => exact ⟨p, k, hk, by simpa [hstate] using hnid, hlive⟩
  · exact ⟨p, n, hn, hnid, hlive⟩

theorem fades_sendMailTo (rc : Nat) (messageType : MailMessageType) (senderId : Nat) (draft : MailDraft)
    (checked deliverDelay : Nat) :
    Fades w (w.sendMailTo cfg rc messageType senderId draft checked deliverDelay) := by
  unfold sendMailTo
  split
  · split
    · exact fades_of_mails rfl rfl
    · exact fades_of_mails rfl rfl
  · refine ⟨Nat.le_succ _, fun id hid hl => ?_⟩
    obtain ⟨p, n, hn, hnid, hlive⟩ := hl
    simp only [Function.update_apply] at hn
    split at hn
    · next hp =>
      rcases List.mem_cons.1 hn with rfl | hn
      · -- the new mail has an id of its own
        simp only [newMail] at hnid
        omega
      · exact ⟨p, n, hp ▸ hn, hnid, hlive⟩
    · exact ⟨p, n, hn, hnid, hlive⟩

/-! ## Sending -/

theorem mMitems_sendMailTo (rc : Nat) (messageType : MailMessageType) (senderId : Nat) (draft : MailDraft)
    (checked deliverDelay p g : Nat) :
    (w.sendMailTo cfg rc messageType senderId draft checked deliverDelay).mMitems p g = true ↔
      w.mMitems p g = true ∨ (rc ≠ cfg.ahbplayerGUID ∧ p = rc ∧ g ∈ draft.items) := by
  unfold sendMailTo
  split
  · next hrc =>
    have hnot : ¬ (rc ≠ cfg.ahbplayerGUID ∧ p = rc ∧ g ∈ draft.items) := fun h => h.1 hrc
    split
    · exact ⟨Or.inl, fun h => h.resolve_right hnot⟩
    · exact ⟨Or.inl, fun h => h.resolve_right hnot⟩
  · next hrc =>
    simp only
    split
    · next hin => exact ⟨fun _ => Or.inr ⟨hrc, hin⟩, fun _ => rfl⟩
    · next hin => exact ⟨Or.inl, fun h => h.resolve_right fun h => hin h.2⟩

theorem boxes_sendMailTo (hb : Boxes w.mails w.nextMailId) (rc : Nat) (messageType : MailMessageType)
    (senderId : Nat) (draft : MailDraft) (checked deliverDelay : Nat) (hnd : draft.items.Nodup)
    (hfree : ∀ p n g, n ∈ w.mails p → g ∈ n.items → g ∉ draft.items) :
    Boxes (w.sendMailTo cfg rc messageType senderId draft checked deliverDelay).mails
      (w.sendMailTo cfg rc messageType senderId draft checked deliverDelay).nextMailId := by
  unfold sendMailTo
  split
  · split
    · exact hb
    · exact hb
  · exact hb.deliver rc _ rfl rfl hnd hfree

theorem boxes_removeMail (hb : Boxes w.mails w.nextMailId) :
    Boxes (w.removeMail pl mailId).mails (w.removeMail pl mailId).nextMailId := by
  have hs := removeMail_shrinks (w := w) pl mailId
  exact hb.shrink hs.ids fun p m' hm' => by
    obtain ⟨m, hm, hr, _⟩ := hs.origin p m' hm'
    exact ⟨m, hm, hr⟩

theorem boxes_saveMail (hb : Boxes w.mails w.nextMailId) :
    Boxes (w.saveMail pl).mails (w.saveMail pl).nextMailId := by
  have hs := saveMail_shrinks (w := w) pl
  exact hb.shrink hs.ids fun p m' hm' => by
    obtain ⟨m, hm, hr, _⟩ := hs.origin p m' hm'
    exact ⟨m, hm, hr⟩

/-! ## Requests -/

/-- What a request keeps: the boxes, the mails that are not live, every attached item with its object, and,
when `C` holds, no object without its mail. -/
structure Served (C : Prop) (w t : PostOffice) : Prop where
  boxes : Boxes t.mails t.nextMailId
  faded : Fades w t
  held : (∀ p g, w.Attached p g → w.mMitems p g = true) → ∀ p g, t.Attached p g → t.mMitems p g = true
  covered : C → (∀ p g, w.mMitems p g = true → w.Attached p g) → ∀ p g, t.mMitems p g = true → t.Attached p g

theorem Served.of_exchange {C : Prop} (S R : Nat → Nat → Prop) (hb : Boxes t.mails t.nextMailId) (hf : Fades w t)
    (ha : ∀ p g, t.Attached p g ↔ (w.Attached p g ∧ ¬ S p g) ∨ R p g)
    (hm : ∀ p g, t.mMitems p g = true ↔ (w.mMitems p g = true ∧ ¬ S p g) ∨ R p g) : Served C w t := by
  refine ⟨hb, hf, fun h p g hat => (hm p g).2 ?_, fun _ h p g hmm => (ha p g).2 ?_⟩
  · exact ((ha p g).1 hat).imp_left fun hl => ⟨h p g hl.1, hl.2⟩
  · exact ((hm p g).1 hmm).imp_left fun hl => ⟨h p g hl.1, hl.2⟩

theorem Served.of_same {C : Prop} (hb : Boxes t.mails t.nextMailId) (hf : Fades w t)
    (ha : ∀ p g, t.Attached p g ↔ w.Attached p g) (hm : t.mMitems = w.mMitems) : Served C w t := by
  refine ⟨hb, hf, fun h p g hat => ?_, fun _ h p g hmm => ?_⟩
  · rw [hm]
    exact h p g ((ha p g).1 hat)
  · rw [hm] at hmm
    exact (ha p g).2 (h p g hmm)

theorem Served.refl {C : Prop} (hb : Boxes w.mails w.nextMailId) : Served C w w :=
  Served.of_same hb (fades_of_mails rfl rfl) (fun _ _ => Iff.rfl) rfl

/-- Items lose their mail and keep their object, which is clean when there are none. -/
theorem Served.of_lost {C : Prop} (S : Nat → Nat → Prop) (hb : Boxes t.mails t.nextMailId) (hf : Fades w t)
    (ha : ∀ p g, t.Attached p g ↔ w.Attached p g ∧ ¬ S p g) (hm : t.mMitems = w.mMitems)
    (hC : C → ∀ p g, ¬ S p g) : Served C w t := by
  refine ⟨hb, hf, fun h p g hat => ?_, fun hc h p g hmm => ?_⟩
  · rw [hm]
    exact h p g ((ha p g).1 hat).1
  · rw [hm] at hmm
    exact (ha p g).2 ⟨h p g hmm, hC hc p g⟩

theorem Served.updateMail {C : Prop} {f : Mail → Mail} (hb : Boxes w.mails w.nextMailId) (hm : m ∈ w.mails pl)
    (hlive : m.state ≠ .deleted) (hf : ∀ m : Mail, m.Reduced (f m)) (hstate : (f m).state ≠ .deleted)
    (hitems : (f m).items = m.items) : Served C w (w.updateMail pl m.messageID f) :=
  Served.of_same (boxes_updateMail hb hf) (fades_updateMail hb hm (hf m).id fun _ => hlive)
    (attached_updateMail_same hb hm hlive hstate hitems) rfl

theorem Served.saveMail {C : Prop} (h : Served C w v) : Served C w (v.saveMail pl) := by
  refine ⟨boxes_saveMail h.boxes, h.faded.trans fades_saveMail, fun hh p g hat => ?_, fun hc hh p g hmm => ?_⟩
  · exact h.held hh p g ((attached_saveMail p g).1 hat)
  · exact (attached_saveMail p g).2 (h.covered hc hh p g hmm)

theorem openMail_live (h : w.openMail pl mailId = some m) : m.state ≠ .deleted := by
  unfold openMail at h
  split at h
  · cases h
  · split at h
    · cases h
    · next hopen =>
      cases h
      exact fun hd => hopen (Or.inl hd)

theorem handleMarkAsRead_served {C : Prop} (hb : Boxes w.mails w.nextMailId)
    (hg : w.HeedfulBox (.markAsRead pl mailId)) : Served C w (w.handleMarkAsRead pl mailId) := by
  unfold handleMarkAsRead
  split
  · exact Served.refl hb
  · next m hget =>
    obtain ⟨hm, rfl⟩ := getMail_eq_some pl mailId m hget
    exact Served.updateMail hb hm (hg m hget) (fun m => ⟨rfl, rfl, rfl, List.Sublist.refl _, Or.inl rfl⟩)
      (by simp) rfl

theorem handleMailDelete_served (hb : Boxes w.mails w.nextMailId) :
    Served (w.Clean (.mailDelete pl mailId)) w (w.handleMailDelete pl mailId) := by
  unfold handleMailDelete
  split
  · exact Served.refl hb
  · next m hget =>
    split
    · exact Served.refl hb
    · next hcod =>
      have hnone : w.Clean (.mailDelete pl mailId) → m.items = [] := fun hc => hc m hget (by simpa using hcod)
      obtain ⟨hm, rfl⟩ := getMail_eq_some pl mailId m hget
      refine Served.of_lost (fun p g => p = pl ∧ g ∈ m.items)
        (boxes_updateMail hb fun m => ⟨rfl, rfl, rfl, List.Sublist.refl _, Or.inl rfl⟩)
        (fades_updateMail hb hm rfl fun h => absurd rfl h) (fun p g => ?_) rfl fun hc p g h => ?_
      · rw [attached_updateMail hb hm]
        exact ⟨fun h => h.resolve_left fun h => h.2.1 rfl, Or.inr⟩
      · rw [hnone hc] at h
        cases h.2

theorem handleTakeMoney_served {C : Prop} (hb : Boxes w.mails w.nextMailId) :
    Served C w (w.handleTakeMoney pl mailId) := by
  unfold handleTakeMoney
  split
  · exact Served.refl hb
  · next m hopen =>
    obtain ⟨hm, rfl, _⟩ := openMail_eq_some pl mailId m hopen
    refine Served.saveMail (Served.of_same ?_ ?_ ?_ rfl)
    · exact boxes_updateMail hb fun m => ⟨rfl, rfl, rfl, List.Sublist.refl _, Or.inr rfl⟩
    · exact (fades_updateMail (f := fun m => { m with money := 0, state := .changed }) hb hm rfl
        fun _ => openMail_live hopen).trans (fades_of_mails rfl rfl)
    · exact attached_updateMail_same (w := { w with money := _ }) hb hm (openMail_live hopen) (by simp) rfl

/-- What the COD payment leaves as it is: it brings a mail without items. -/
structure SameAttached (w t : PostOffice) : Prop where
  boxes : Boxes t.mails t.nextMailId
  faded : Fades w t
  attached : ∀ p g, t.Attached p g ↔ w.Attached p g
  objects : ∀ p g, t.mMitems p g = true ↔ w.mMitems p g = true
  stays : ∀ p k, k ∈ w.mails p → k ∈ t.mails p

theorem SameAttached.of_eq (h : SameAttached w v) (hm : t.mails = v.mails) (hn : t.nextMailId = v.nextMailId)
    (ho : t.mMitems = v.mMitems) : SameAttached w t := by
  refine ⟨hm ▸ hn ▸ h.boxes, h.faded.trans (fades_of_mails hm hn), fun p g => ?_, fun p g => ?_, fun p k hk => ?_⟩
  · rw [← h.attached p g]
    unfold Attached
    rw [hm]
  · rw [ho]
    exact h.objects p g
  · rw [hm]
    exact h.stays p k hk

theorem payCod_same (hb : Boxes w.mails w.nextMailId) (n : Mail) : SameAttached w (w.payCod cfg pl n) := by
  have hstay : SameAttached w w :=
    ⟨hb, fades_of_mails rfl rfl, fun _ _ => Iff.rfl, fun _ _ => Iff.rfl, fun _ _ h => h⟩
  have hsend : SameAttached w
      (w.sendMailTo cfg n.sender .normal n.receiver { money := n.cod } mailCheckMaskCodPayment 0) := by
    refine ⟨boxes_sendMailTo hb _ _ _ _ _ _ List.nodup_nil fun _ _ _ _ _ h => (by cases h), fades_sendMailTo ..,
      fun p g => ?_, fun p g => ?_, fun p k hk => ?_⟩
    · rw [attached_sendMailTo]
      exact ⟨fun h => h.resolve_right fun h => (by cases h.2.2), Or.inl⟩
    · rw [mMitems_sendMailTo]
      exact ⟨fun h => h.resolve_right fun h => (by cases h.2.2), Or.inl⟩
    · unfold sendMailTo
      split
      · split
        · exact hk
        · exact hk
      · simp only [Function.update_apply]
        split
        · next hp => exact List.mem_cons_of_mem _ (hp ▸ hk)
        · exact hk
  unfold payCod
  split
  · simp only
    split
    · split
      · exact hsend.of_eq rfl rfl rfl
      · exact hsend.of_eq rfl rfl rfl
    · exact hstay.of_eq rfl rfl rfl
  · exact hstay

/-- **Taking an item** from the mail it is in. -/
theorem handleTakeItem_served {C : Prop} {itemId : Nat} (hb : Boxes w.mails w.nextMailId)
    (hg : w.HeedfulBox (.takeItem pl mailId itemId)) : Served C w (w.handleTakeItem cfg pl mailId itemId) := by
  unfold handleTakeItem
  split
  · exact Served.refl hb
  next m hopen =>
  split
  · exact Served.refl hb
  split
  · exact Served.refl hb
  next hobject =>
  simp only
  split
  · next hok =>
    have hin := hg m hopen (by simpa using hobject)
    have hlive := openMail_live hopen
    obtain ⟨hm, rfl, _⟩ := openMail_eq_some pl mailId m hopen
    let f1 : Mail → Mail := fun m =>
      { m with items := m.items.erase itemId, removedItems := m.removedItems ++ [itemId] }
    let f2 : Mail → Mail := fun m => { m with cod := 0, state := .changed }
    have hb1 : Boxes (w.updateMail pl m.messageID f1).mails (w.updateMail pl m.messageID f1).nextMailId :=
      boxes_updateMail hb fun m => ⟨rfl, rfl, rfl, List.erase_sublist, Or.inl rfl⟩
    have hm1 : f1 m ∈ (w.updateMail pl m.messageID f1).mails pl := (mem_updateMail hb hm pl _).2 (Or.inl ⟨rfl, rfl⟩)
    have ha1 : ∀ p g, (w.updateMail pl m.messageID f1).Attached p g ↔
        w.Attached p g ∧ ¬ (p = pl ∧ g = itemId) := by
      intro p g
      rw [attached_updateMail hb hm]
      have hitems : ∀ g, g ∈ (f1 m).items ↔ g ≠ itemId ∧ g ∈ m.items := fun g => (hb.nodup pl m hm).mem_erase_iff
      constructor
      · rintro (⟨rfl, _, hg⟩ | ⟨hat, hnot⟩)
        · exact ⟨attached_of_live hm hlive ((hitems g).1 hg).2, fun h => ((hitems g).1 hg).1 h.2⟩
        · exact ⟨hat, fun h => hnot ⟨h.1, h.2 ▸ hin⟩⟩
      · rintro ⟨hat, hnot⟩
        by_cases hmem : p = pl ∧ g ∈ m.items
        · exact Or.inl ⟨hmem.1, hlive, (hitems g).2 ⟨fun h => hnot ⟨hmem.1, h⟩, hmem.2⟩⟩
        · exact Or.inr ⟨hat, hmem⟩
    have hpay : SameAttached (w.updateMail pl m.messageID f1) ((w.updateMail pl m.messageID f1).payCod cfg pl m) :=
      payCod_same hb1 m
    have hm2 := hpay.stays pl (f1 m) hm1
    have hf3 : Fades ((w.updateMail pl m.messageID f1).payCod cfg pl m)
        (((w.updateMail pl m.messageID f1).payCod cfg pl m).updateMail pl m.messageID f2) :=
      fades_updateMail (m := f1 m) hpay.boxes hm2 rfl fun _ => hlive
    have ha3 := attached_updateMail_same (m := f1 m) (f := f2) hpay.boxes hm2 hlive (by simp [f2]) rfl
    refine Served.saveMail (Served.of_exchange (fun p g => p = pl ∧ g = itemId) (fun _ _ => False) ?_ ?_ ?_ ?_)
    · exact boxes_updateMail hpay.boxes fun m => ⟨rfl, rfl, rfl, List.Sublist.refl _, Or.inl rfl⟩
    · exact (((fades_updateMail hb hm rfl fun _ => hlive).trans hpay.faded).trans hf3).trans (fades_of_mails rfl rfl)
    · intro p g
      rw [or_false, ← ha1, ← hpay.attached]
      exact ha3 p g
    · intro p g
      have hobjects := hpay.objects p g
      rw [or_false]
      show (if p = pl ∧ g = itemId then false else ((w.updateMail pl m.messageID f1).payCod cfg pl m).mMitems p g) =
        true ↔ _
      split
      · next heq => exact ⟨fun h => (by cases h), fun h => absurd heq h.2⟩
      · next hne => exact ⟨fun h => ⟨hobjects.1 h, hne⟩, fun h => hobjects.2 h.1⟩
  · exact Served.refl hb

/-- **Returning a mail**: its items and their objects go together. -/
theorem handleReturnToSender_served (hb : Boxes w.mails w.nextMailId) :
    Served (w.Clean (.returnToSender pl mailId)) w (w.handleReturnToSender cfg pl mailId) := by
  unfold handleReturnToSender
  split
  · exact Served.refl hb
  next m hopen =>
  have hclean : w.Clean (.returnToSender pl mailId) → m.FromPlayer ∨ m.items = [] := fun hc => hc m hopen
  obtain ⟨hm, rfl, _⟩ := openMail_eq_some pl mailId m hopen
  simp only
  split
  · rw [foldl_removeMItem]
    generalize hitems : (m.items.filter fun g => w.mMitems pl g).dedup = items
    have hsub : ∀ g ∈ items, g ∈ m.items := by
      intro g hg
      rw [← hitems] at hg
      exact List.mem_of_mem_filter (List.mem_dedup.1 hg)
    let w2 : PostOffice := { w.removeMail pl m.messageID with
      mMitems := fun p i => if p = pl ∧ i ∈ m.items then false else w.mMitems p i }
    have hb2 : Boxes w2.mails w2.nextMailId := boxes_removeMail hb
    have hf2 : Fades w w2 := fades_removeMail.trans (fades_of_mails rfl rfl)
    have ha2 : ∀ p g, w2.Attached p g ↔ w.Attached p g ∧ ¬ (p = pl ∧ g ∈ m.items) := attached_removeMail hb hm
    have hm2 : ∀ p g, w2.mMitems p g = true ↔ w.mMitems p g = true ∧ ¬ (p = pl ∧ g ∈ m.items) := by
      intro p g
      show (if p = pl ∧ g ∈ m.items then false else w.mMitems p g) = true ↔ _
      split
      · next hin => exact ⟨fun h => (by cases h), fun h => absurd hin h.2⟩
      · next hin => exact ⟨fun h => ⟨h, hin⟩, fun h => h.1⟩
    have hfree : ∀ p n g, n ∈ w2.mails p → g ∈ n.items → g ∉ items := by
      intro p n g hn hg hmem
      obtain ⟨n', hn', hr, -⟩ := (removeMail_shrinks pl m.messageID).origin p n hn
      have hsame := hb.alone p n' pl m g hn' hm (hr.items.subset hg) (hsub g hmem)
      obtain ⟨rfl, rfl⟩ := Boxes.only hb hm hn' hsame
      exact ((mem_removeMail (hb.ids p) n).1 hn).2 hr.id
    show Served _ w (w2.sendReturnToSender cfg _ _ _ _)
    unfold sendReturnToSender
    split
    · exact Served.of_exchange (fun p g => p = pl ∧ g ∈ m.items) (fun _ _ => False) hb2
        (hf2.trans (fades_of_mails rfl rfl)) (fun p g => by rw [or_false]; exact ha2 p g)
        (fun p g => by rw [or_false]; exact hm2 p g)
    · refine Served.of_exchange (fun p g => p = pl ∧ g ∈ m.items)
        (fun p g => m.sender ≠ cfg.ahbplayerGUID ∧ p = m.sender ∧ g ∈ items)
        (boxes_sendMailTo hb2 _ _ _ _ _ _ (hitems ▸ List.nodup_dedup _) hfree) (hf2.trans (fades_sendMailTo ..))
        (fun p g => ?_) fun p g => ?_
      · rw [attached_sendMailTo, ha2]
      · rw [mMitems_sendMailTo, hm2]
  · next hnot =>
    refine Served.of_lost (fun p g => p = pl ∧ g ∈ m.items) (boxes_removeMail hb) fades_removeMail
      (attached_removeMail hb hm) rfl fun hc p g h => ?_
    rw [(hclean hc).resolve_left hnot] at h
    cases h.2

/-- **All of a mail comes back** to a sender who exists. -/
theorem returns_all (hb : Boxed w) (hopen : w.openMail pl mailId = some m) (hfrom : m.FromPlayer)
    (hreach : Reaches cfg m.sender) : Returned cfg w (w.handleReturnToSender cfg pl mailId) pl m := by
  have hlive := openMail_live hopen
  obtain ⟨hm, hid, _⟩ := openMail_eq_some pl mailId m hopen
  have hfilter : (m.items.filter fun g => w.mMitems pl g).dedup = m.items := by
    rw [List.filter_eq_self.2 fun g hg => hb.held pl g (attached_of_live hm hlive hg)]
    exact (hb.boxes.nodup pl m hm).dedup
  have heq : w.handleReturnToSender cfg pl mailId =
      ({ w.removeMail pl mailId with
        mMitems := fun p i => if p = pl ∧ i ∈ m.items then false else w.mMitems p i } : PostOffice).sendMailTo cfg
        m.sender .normal m.receiver
        { mailTemplateId := m.mailTemplateId, bodyId := if m.mailTemplateId ≠ 0 then 0 else m.itemTextId
          items := m.items, money := m.money } mailCheckMaskReturned
        (if m.items ≠ [] ∧ cfg.accountOf pl ≠ cfg.accountOf m.sender then cfg.mailDeliveryDelay else 0) := by
    unfold handleReturnToSender
    rw [hopen]
    simp only
    rw [if_pos (show m.messageType = .normal ∧ m.sender ≠ 0 from hfrom), foldl_removeMItem, hfilter]
    unfold sendReturnToSender
    rw [if_neg hreach.1]
    rfl
  rw [heq, ← hid]
  unfold sendMailTo
  rw [if_neg hreach.2]
  refine ⟨rfl, fun p g => ?_, rfl⟩
  show (if p = m.sender ∧ g ∈ m.items then true
    else if p = pl ∧ g ∈ m.items then false else w.mMitems p g) = true ↔ _
  split
  · next hnew => exact ⟨fun _ => Or.inl hnew, fun _ => rfl⟩
  · next hnew =>
    split
    · next hold => exact ⟨fun h => (by cases h), fun h => absurd hold (h.resolve_left hnew).2⟩
    · next hold => exact ⟨fun h => Or.inr ⟨h, hold⟩, fun h => (h.resolve_left hnew).1⟩

/-- **A mail of another type is dropped**. -/
theorem drops_other (hopen : w.openMail pl mailId = some m) (hnot : ¬ m.FromPlayer) :
    Dropped w (w.handleReturnToSender cfg pl mailId) pl m := by
  obtain ⟨_, hid, _⟩ := openMail_eq_some pl mailId m hopen
  unfold handleReturnToSender
  rw [hopen]
  simp only
  rw [if_neg (show ¬ (m.messageType = .normal ∧ m.sender ≠ 0) from hnot), ← hid]
  exact ⟨rfl, rfl⟩

/-! ## Runs -/

theorem boxStep_served (hb : Boxes w.mails w.nextMailId) {r : BoxRequest} (hg : w.HeedfulBox r) :
    Served (w.Clean r) w (w.boxStep cfg r) := by
  cases r with
  | arrive rc messageType senderId draft checked deliverDelay =>
    refine Served.of_exchange (fun _ _ => False) (fun p g => rc ≠ cfg.ahbplayerGUID ∧ p = rc ∧ g ∈ draft.items)
      (boxes_sendMailTo hb _ _ _ _ _ _ hg.1 hg.2) (fades_sendMailTo ..) (fun p g => ?_) fun p g => ?_
    · rw [not_false_eq_true, and_true]
      exact attached_sendMailTo rc messageType senderId draft checked deliverDelay p g
    · rw [not_false_eq_true, and_true]
      exact mMitems_sendMailTo rc messageType senderId draft checked deliverDelay p g
  | markAsRead pl mailId => exact handleMarkAsRead_served hb hg
  | mailDelete pl mailId => exact handleMailDelete_served hb
  | returnToSender pl mailId => exact handleReturnToSender_served hb
  | takeItem pl mailId itemId => exact handleTakeItem_served hb hg
  | takeMoney pl mailId => exact handleTakeMoney_served hb
  | saveMail pl => exact (Served.refl hb).saveMail
  | tick diff => exact Served.of_same hb (fades_of_mails rfl rfl) (fun _ _ => Iff.rfl) rfl

theorem boxStep_boxed (hb : w.Boxed) {r : BoxRequest} (hg : w.HeedfulBox r) : (w.boxStep cfg r).Boxed := by
  have h : Served (w.Clean r) w (w.boxStep cfg r) := boxStep_served hb.boxes hg
  exact ⟨h.boxes, h.held hb.held⟩

theorem boxStep_loaded (hl : w.Loaded) {r : BoxRequest} (hg : w.HeedfulBox r ∧ w.Clean r) :
    (w.boxStep cfg r).Loaded :=
  ⟨boxStep_boxed hl.toBoxed hg.1, (boxStep_served hl.boxes hg.1).covered hg.2 hl.covered⟩

theorem boxStep_keeps (hb : w.Boxed) {r : BoxRequest} (hg : w.HeedfulBox r) : KeepsAttached cfg w r := by
  have h : Served (w.Clean r) w (w.boxStep cfg r) := boxStep_served hb.boxes hg
  refine ⟨h.held hb.held, fun p m p' m' g hm hm' hg hg' => ?_, fun id hid hnot hl => hnot (h.faded.live id hid hl), ?_⟩
  · exact Boxes.only h.boxes hm' hm (h.boxes.alone p m p' m' g hm hm' hg hg')
  · rintro pl mailId m rfl hopen
    exact ⟨fun hfrom hreach => returns_all hb hopen hfrom hreach, fun hnot => drops_other hopen hnot⟩

end

/-- **Every attached item has its object and one mail, no deleted mail comes back, and a mail of a player
is returned whole**; and in a clean run `mMitems` has nothing else. -/
theorem attachments_kept (cfg : MailConfig) (w : PostOffice) (rs : List BoxRequest) (hw : w.Loaded)
    (h : Along (boxStep cfg) HeedfulBox w rs) :
    Along (boxStep cfg) (KeepsAttached cfg) w rs ∧
      (Along (boxStep cfg) Clean w rs → Along (boxStep cfg) (fun w r => (w.boxStep cfg r).Loaded) w rs) := by
  refine ⟨?_, fun hc => ?_⟩
  · exact Transition.along_of_invariant (fun _ _ hb hg => boxStep_boxed hb hg) (fun _ _ hb hg => boxStep_keeps hb hg)
      hw.toBoxed h
  · exact Transition.along_of_invariant (fun _ _ hl hg => boxStep_loaded hl hg) (fun _ _ hl hg => boxStep_loaded hl hg)
      hw (h.and hc)

theorem loaded_empty : Loaded {} where
  boxes := ⟨fun _ _ h => (nomatch h), fun _ => List.nodup_nil, fun _ _ _ _ h => (nomatch h),
    fun _ _ _ _ _ h => (nomatch h), fun _ _ h => (nomatch h)⟩
  held := fun _ _ h => by
    obtain ⟨m, hm, _⟩ := h
    cases hm
  covered := fun _ _ h => (nomatch h)

def boxConfig : MailConfig where
  om := Holdings.sampleMgr
  accountOf := fun p => p
  ahbplayerGUID := 9
  mailDeliveryDelay := 3600

/-- A mail that is read and returned, and its money taken again. -/
theorem attachments_kept_sample :
    Along (boxStep boxConfig) (KeepsAttached boxConfig) {}
        [.arrive 1 .normal 7 { items := [5], money := 100 } 0 0, .markAsRead 1 1, .returnToSender 1 1, .tick 3600,
          .takeMoney 7 2] ∧
      Along (boxStep boxConfig) (fun w r => (w.boxStep boxConfig r).Loaded) {}
        [.arrive 1 .normal 7 { items := [5], money := 100 } 0 0, .markAsRead 1 1, .returnToSender 1 1, .tick 3600,
          .takeMoney 7 2] := by
  have h := attachments_kept boxConfig {}
    [.arrive 1 .normal 7 { items := [5], money := 100 } 0 0, .markAsRead 1 1, .returnToSender 1 1, .tick 3600,
      .takeMoney 7 2] loaded_empty ?_
  · refine ⟨h.1, h.2 ⟨trivial, trivial, ?_, trivial, trivial, trivial⟩⟩
    intro m hm
    obtain rfl := Option.some.inj (Eq.trans (Eq.refl (some _)) hm)
    exact Or.inl ⟨by decide, by decide⟩
  · refine ⟨⟨by decide, fun p n g hn => (nomatch hn)⟩, ?_, trivial, trivial, trivial, trivial⟩
    intro m hm
    obtain rfl := Option.some.inj (Eq.trans (Eq.refl (some _)) hm)
    decide

/-- A mail of an auction house with an item and money. -/
def auctionBox : PostOffice := boxStep boxConfig {} (.arrive 1 .auction 7 { items := [5], money := 100 } 0 0)

/-- A returned mail of another type is lost with its item and its money. -/
theorem return_drops :
    ∃ m, auctionBox.openMail 1 1 = some m ∧ m.sender ≠ 0 ∧ Reaches boxConfig m.sender ∧ m.items = [5] ∧
      m.money = 100 ∧ ¬ Returned boxConfig auctionBox (auctionBox.boxStep boxConfig (.returnToSender 1 1)) 1 m := by
  refine ⟨_, rfl, by decide, ⟨by decide, by decide⟩, rfl, rfl, fun h => ?_⟩
  have hnone : (auctionBox.boxStep boxConfig (.returnToSender 1 1)).mails 7 = [] := by decide
  rw [h.mails] at hnone
  exact List.cons_ne_nil _ _ hnone

end PostOffice

end BlizzLike
