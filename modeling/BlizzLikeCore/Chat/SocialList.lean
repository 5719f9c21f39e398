import BlizzLikeCore.Lib.FiniteMap
import BlizzLikeCore.Lib.Transition
import BlizzLikeCore.Util.WideStrings

/-!
# Friends and ignored players

A contact of a player has one row in `character_social` and one entry in his map, with a flag for friends and
one for ignored players.  Each change is made to both, by an update, an insertion or a deletion that the old
flags decide on.  `SetFriendNote` keeps the escaped note in the map and has the plain one written to the row
(`note_differs`); but for that the rows and the map are alike after any calls (`social_mirrored`).
-/

namespace BlizzLike.SocialList

/-- `SOCIAL_FLAG_FRIEND` and `SOCIAL_FLAG_IGNORED`. -/
def socialFlag (ignore : Bool) : BitVec 32 := if ignore then 2 else 1

/-- `SOCIALMGR_FRIEND_LIMIT` and `SOCIALMGR_IGNORE_LIMIT`. -/
def socialLimit (ignore : Bool) : Nat := if ignore then 25 else 50

structure FriendInfo where
  flags : BitVec 32 := 0
  note : List Char := []
  deriving DecidableEq

/-- A row of `character_social` of the player: the friend, and the flags and the note. -/
structure SocialRow where
  friend : Nat
  info : FriendInfo
  deriving DecidableEq

abbrev PlayerSocialMap := AList fun _ : Nat => FriendInfo

/-- The map and the rows; `overrun` tells that a note's conversion has left its buffer. -/
structure PlayerSocial where
  social : PlayerSocialMap := ∅
  rows : List SocialRow := []
  overrun : Bool := false

inductive SocialCall where
  | addToSocialList (friendGuid : Nat) (ignore : Bool)
  | removeFromSocialList (friendGuid : Nat) (ignore : Bool)
  | setFriendNote (friendGuid : Nat) (note : List Char)

/-- `mysql_real_escape_string`. -/
def escapeString : List Char → List Char
  | [] => []
  | c :: cs =>
    (match c with
      | '\x00' => ['\\', '0']
      | '\n' => ['\\', 'n']
      | '\r' => ['\\', 'r']
      | '\\' => ['\\', '\\']
      | '\'' => ['\\', '\'']
      | '"' => ['\\', '"']
      | '\x1a' => ['\\', 'Z']
      | c => [c]) ++ escapeString cs

/-- The text of a literal as the database reads it. -/
def readLiteral : List Char → List Char
  | '\\' :: c :: cs =>
    (match c with
      | '0' => '\x00'
      | 'n' => '\n'
      | 'r' => '\r'
      | 'Z' => '\x1a'
      | c => c) :: readLiteral cs
  | c :: cs => c :: readLiteral cs
  | [] => []

/-- `UPDATE character_social ... WHERE friend`. -/
def updateRows (rows : List SocialRow) (friend : Nat) (f : FriendInfo → FriendInfo) : List SocialRow :=
  rows.map fun r => if r.friend = friend then { r with info := f r.info } else r

def hasFlag (ignore : Bool) (info : FriendInfo) : Bool := info.flags &&& socialFlag ignore != 0

namespace PlayerSocial

variable (s : PlayerSocial)

def getNumberOfSocialsWithFlag (ignore : Bool) : Nat := FiniteMap.count (hasFlag ignore) s.social

def addToSocialList (friendGuid : Nat) (ignore : Bool) : PlayerSocial :=
  if s.getNumberOfSocialsWithFlag ignore ≥ socialLimit ignore then s
  else
    match s.social.lookup friendGuid with
    | some info =>
      { s with
        rows := updateRows s.rows friendGuid fun i => { i with flags := i.flags ||| socialFlag ignore }
        social := s.social.insert friendGuid { info with flags := info.flags ||| socialFlag ignore } }
    | none =>
      { s with
        rows := s.rows ++ [⟨friendGuid, { flags := socialFlag ignore }⟩]
        social := s.social.insert friendGuid { flags := 0 ||| socialFlag ignore } }

def removeFromSocialList (friendGuid : Nat) (ignore : Bool) : PlayerSocial :=
  match s.social.lookup friendGuid with
  | some info =>
    let flags := info.flags &&& ~~~socialFlag ignore
    if flags = 0 then
      { s with
        rows := s.rows.filter fun r => r.friend != friendGuid
        social := s.social.erase friendGuid }
    else
      { s with
        rows := updateRows s.rows friendGuid fun i => { i with flags := i.flags &&& ~~~socialFlag ignore }
        social := s.social.insert friendGuid { info with flags } }
  | none => s

def setFriendNote (friendGuid : Nat) (note : List Char) : PlayerSocial :=
  match s.social.lookup friendGuid with
  | some info =>
    match Utf8.utf8truncate note 48 with
    | some note =>
      let note := escapeString note
      { s with
        rows := updateRows s.rows friendGuid fun i => { i with note := readLiteral note }
        social := s.social.insert friendGuid { info with note } }
    | none => { s with overrun := true }
  | none => s

def step : SocialCall → PlayerSocial
  | .addToSocialList friendGuid ignore => s.addToSocialList friendGuid ignore
  | .removeFromSocialList friendGuid ignore => s.removeFromSocialList friendGuid ignore
  | .setFriendNote friendGuid note => s.setFriendNote friendGuid note

/-- A note for a contact, as it is cut, has nothing to escape. -/
def Plain : SocialCall → Prop
  | .setFriendNote friendGuid note =>
    (s.social.lookup friendGuid).isSome → ∃ cut, Utf8.utf8truncate note 48 = some cut ∧ escapeString cut = cut
  | _ => True

end PlayerSocial

/-- The loop of `LoadFromDB`, which stops when the map is as large as both limits together. -/
def loadFromDB : List SocialRow → PlayerSocialMap → PlayerSocialMap
  | [], social => social
  | r :: rows, social =>
    let social := social.insert r.friend r.info
    if social.entries.length ≥ socialLimit false + socialLimit true then social else loadFromDB rows social

/-! ## Literals -/

theorem readLiteral_char {c : Char} (hc : c ≠ '\\') (cs : List Char) : readLiteral (c :: cs) = c :: readLiteral cs := by
  rw [readLiteral]
  intro _ _ h _
  exact hc h

/-- The database reads what has been escaped. -/
theorem readLiteral_escape (note : List Char) : readLiteral (escapeString note) = note := by
  induction note with
  | nil => rfl
  | cons c cs ih =>
    unfold escapeString
    split
    case h_8 =>
      next hbackslash _ _ _ =>
      rw [List.singleton_append, readLiteral_char hbackslash, ih]
    all_goals exact congrArg _ ih

/-! ## Rows and map alike -/

namespace PlayerSocial

/-- The contacts are those of the rows, each has a flag, and neither list is longer than its limit. -/
structure Mirrored (s : PlayerSocial) : Prop where
  inside : s.overrun = false
  keys : (s.rows.map SocialRow.friend).Nodup
  same : ∀ r, r ∈ s.rows ↔ s.social.lookup r.friend = some r.info
  flags : ∀ f i, s.social.lookup f = some i → i.flags = 1 ∨ i.flags = 2 ∨ i.flags = 3
  limits : ∀ ignore, s.getNumberOfSocialsWithFlag ignore ≤ socialLimit ignore

section
variable {s : PlayerSocial} {f : Nat} {i i' : FriendInfo}

theorem updateRows_friends (rows : List SocialRow) (f : Nat) (u : FriendInfo → FriendInfo) :
    (updateRows rows f u).map SocialRow.friend = rows.map SocialRow.friend := by
  unfold updateRows
  rw [List.map_map]
  refine List.map_congr_left fun r _ => ?_
  show (if _ then _ else r).friend = r.friend
  split <;> rfl

/-- **A contact is updated**, its entry to what its row becomes. -/
theorem Mirrored.update (h : s.Mirrored) (hf : s.social.lookup f = some i) (u : FriendInfo → FriendInfo)
    (hflags : (u i).flags = 1 ∨ (u i).flags = 2 ∨ (u i).flags = 3)
    (hlimits : ∀ ignore, hasFlag ignore (u i) = true → hasFlag ignore i = false →
      s.getNumberOfSocialsWithFlag ignore < socialLimit ignore) :
    ({ s with rows := updateRows s.rows f u, social := s.social.insert f (u i) } : PlayerSocial).Mirrored := by
  refine ⟨h.inside, ?_, fun r => ?_, fun f' i' hf' => ?_, fun ignore => ?_⟩
  · dsimp only
    rw [updateRows_friends]
    exact h.keys
  · by_cases hr : r.friend = f
    · obtain ⟨friend, info⟩ := r
      dsimp only at hr ⊢
      subst hr
      rw [AList.lookup_insert, updateRows, List.mem_map]
      constructor
      · rintro ⟨r0, hr0, heq⟩
        split at heq
        · next hr0f =>
          cases heq
          have hlook := (h.same r0).1 hr0
          rw [hr0f, hf] at hlook
          cases hlook
          rfl
        · next hr0f =>
          cases heq
          exact absurd rfl hr0f
      · intro heq
        cases heq
        exact ⟨⟨friend, i⟩, (h.same _).2 hf, if_pos rfl⟩
    · dsimp only
      rw [AList.lookup_insert_ne hr, ← h.same r, updateRows, List.mem_map]
      constructor
      · rintro ⟨r0, hr0, rfl⟩
        split at hr
        · next hr0f => exact absurd hr0f hr
        · next hr0f =>
          rw [if_neg hr0f]
          exact hr0
      · intro hmem
        exact ⟨r, hmem, if_neg hr⟩
  · rcases FiniteMap.lookup_insert_cases hf' with ⟨rfl, rfl⟩ | ⟨-, hf'⟩
    · exact hflags
    · exact h.flags f' i' hf'
  · have hcount : FiniteMap.count (hasFlag ignore) (s.social.insert f (u i)) + _ = _ + _ :=
      FiniteMap.count_insert (hasFlag ignore) hf
    have hle := h.limits ignore
    have hlt := hlimits ignore
    unfold getNumberOfSocialsWithFlag at hle hlt ⊢
    dsimp only
    cases hnew : hasFlag ignore (u i) with
    | false =>
      rw [hnew, if_neg Bool.false_ne_true] at hcount
      omega
    | true =>
      cases hold : hasFlag ignore i with
      | true =>
        rw [hnew, hold] at hcount
        omega
      | false =>
        have := hlt hnew hold
        rw [hnew, hold, if_pos rfl, if_neg Bool.false_ne_true] at hcount
        omega

theorem addToSocialList_mirrored (h : s.Mirrored) (f : Nat) (ignore : Bool) :
    (s.addToSocialList f ignore).Mirrored := by
  unfold addToSocialList
  split
  · exact h
  · next hroom =>
    have hlt : s.getNumberOfSocialsWithFlag ignore < socialLimit ignore := Nat.lt_of_not_le hroom
    split
    · next i hf =>
      -- one flag is added to the two there can be
      have hadd : ∀ fl : BitVec 32, fl = 1 ∨ fl = 2 ∨ fl = 3 →
          (fl ||| socialFlag ignore = 1 ∨ fl ||| socialFlag ignore = 2 ∨ fl ||| socialFlag ignore = 3) ∧
            ∀ b, (fl ||| socialFlag ignore) &&& socialFlag b ≠ 0 → fl &&& socialFlag b = 0 → b = ignore := by
        rintro fl (rfl | rfl | rfl) <;> cases ignore <;> decide
      obtain ⟨hflags, honly⟩ := hadd i.flags (h.flags f i hf)
      refine h.update hf (fun i => { i with flags := i.flags ||| socialFlag ignore }) hflags fun b hnew hold => ?_
      have hb : b = ignore := honly b (bne_iff_ne.1 hnew) (by simpa [hasFlag] using hold)
      rw [hb]
      exact hlt
    · next hf =>
      have hzero : (0 : BitVec 32) ||| socialFlag ignore = socialFlag ignore := BitVec.zero_or
      refine ⟨h.inside, ?_, fun r => ?_, fun f' i' hf' => ?_, fun b => ?_⟩
      · dsimp only
        rw [List.map_append, List.nodup_append]
        refine ⟨h.keys, List.nodup_singleton _, ?_⟩
        rintro a ha b hb rfl
        obtain ⟨r, hr, rfl⟩ := List.mem_map.1 ha
        have hlook := (h.same r).1 hr
        rw [List.mem_singleton.1 hb, hf] at hlook
        cases hlook
      · dsimp only
        rw [hzero, List.mem_append, h.same r, List.mem_singleton]
        by_cases hr : r.friend = f
        · obtain ⟨friend, info⟩ := r
          dsimp only at hr
          subst hr
          rw [AList.lookup_insert, hf]
          simp [eq_comm]
        · rw [AList.lookup_insert_ne hr]
          refine or_iff_left fun heq => ?_
          rw [heq] at hr
          exact hr rfl
      · rcases FiniteMap.lookup_insert_cases hf' with ⟨rfl, rfl⟩ | ⟨-, hf'⟩
        · cases ignore <;> decide
        · exact h.flags f' i' hf'
      · have hcount := FiniteMap.count_insert_none (hasFlag b) (b := { flags := 0 ||| socialFlag ignore }) hf
        have hle := h.limits b
        unfold getNumberOfSocialsWithFlag at hle hlt ⊢
        dsimp only
        rw [hcount]
        by_cases hb : b = ignore
        · subst hb
          split <;> omega
        · rw [if_neg (by cases b <;> cases ignore <;> first | exact absurd rfl hb | decide)]
          omega

theorem removeFromSocialList_mirrored (h : s.Mirrored) (f : Nat) (ignore : Bool) :
    (s.removeFromSocialList f ignore).Mirrored := by
  unfold removeFromSocialList
  split
  swap
  · exact h
  · next i hf =>
    dsimp only
    split
    · refine ⟨h.inside, ?_, fun r => ?_, fun f' i' hf' => ?_, fun b => ?_⟩
      · exact (List.filter_sublist.map _).nodup h.keys
      · dsimp only
        rw [List.mem_filter, h.same r, bne_iff_ne]
        by_cases hr : r.friend = f
        · rw [hr, AList.lookup_erase]
          exact iff_of_false (fun hr' => hr'.2 rfl) (Option.some_ne_none _).symm
        · rw [AList.lookup_erase_ne hr]
          exact and_iff_left hr
      · exact h.flags f' i' (FiniteMap.lookup_of_erase hf').2
      · have hcount := FiniteMap.count_erase (hasFlag b) hf
        have hle := h.limits b
        unfold getNumberOfSocialsWithFlag at hle ⊢
        dsimp only
        omega
    · next hne =>
      have hsub : ∀ fl : BitVec 32, fl = 1 ∨ fl = 2 ∨ fl = 3 → fl &&& ~~~socialFlag ignore ≠ 0 →
          (fl &&& ~~~socialFlag ignore = 1 ∨ fl &&& ~~~socialFlag ignore = 2 ∨ fl &&& ~~~socialFlag ignore = 3) ∧
            ∀ b, fl &&& socialFlag b = 0 → (fl &&& ~~~socialFlag ignore) &&& socialFlag b = 0 := by
        rintro fl (rfl | rfl | rfl) <;> cases ignore <;> decide
      obtain ⟨hflags, honly⟩ := hsub i.flags (h.flags f i hf) hne
      refine h.update hf (fun i => { i with flags := i.flags &&& ~~~socialFlag ignore }) hflags fun b hnew hold => ?_
      exact absurd (honly b (by simpa [hasFlag] using hold)) (bne_iff_ne.1 hnew)

theorem setFriendNote_mirrored (h : s.Mirrored) {f : Nat} {note : List Char} (hplain : s.Plain (.setFriendNote f note)) :
    (s.setFriendNote f note).Mirrored := by
  unfold setFriendNote
  split
  · next i hf =>
    obtain ⟨cut, hcut, hescape⟩ := hplain (by rw [hf]; rfl)
    have hread := readLiteral_escape cut
    rw [hescape] at hread
    simp only [hcut, hescape, hread]
    refine h.update hf (fun i => { i with note := cut }) (h.flags f i hf) fun b hnew hold => ?_
    exact absurd (hnew.symm.trans hold) (by decide)
  · exact h

theorem step_mirrored {call : SocialCall} (h : s.Mirrored) (hplain : s.Plain call) : (s.step call).Mirrored := by
  cases call with
  | addToSocialList f ignore => exact addToSocialList_mirrored h f ignore
  | removeFromSocialList f ignore => exact removeFromSocialList_mirrored h f ignore
  | setFriendNote f note => exact setFriendNote_mirrored h hplain

/-- There are no more rows than both limits together allow. -/
theorem Mirrored.rows_length (h : s.Mirrored) : s.rows.length ≤ socialLimit false + socialLimit true := by
  have hperm : (s.rows.map fun r => (⟨r.friend, r.info⟩ : Sigma fun _ : Nat => FriendInfo)).Perm s.social.entries := by
    refine (List.perm_ext_iff_of_nodup ?_ s.social.nodupKeys.nodup).2 fun e => ?_
    · refine List.Nodup.of_map Sigma.fst ?_
      rw [List.map_map]
      exact h.keys
    · rw [List.mem_map, ← AList.mem_lookup_iff, Option.mem_def]
      constructor
      · rintro ⟨r, hr, rfl⟩
        exact (h.same r).1 hr
      · intro he
        exact ⟨⟨e.1, e.2⟩, (h.same _).2 he, rfl⟩
  have hlen := hperm.length_eq
  rw [List.length_map] at hlen
  have hsplit : s.social.entries.length = FiniteMap.count (hasFlag false) s.social + _ :=
    List.length_eq_countP_add_countP _
  have hignored : s.social.entries.countP (fun e => decide ¬hasFlag false e.2 = true) ≤
      FiniteMap.count (hasFlag true) s.social := by
    refine List.countP_mono_left fun e he hno => ?_
    have hall : ∀ fl : BitVec 32, fl = 1 ∨ fl = 2 ∨ fl = 3 → fl &&& 1 = 0 → (fl &&& 2 != 0) = true := by
      rintro fl (rfl | rfl | rfl) <;> decide
    refine hall e.2.flags (h.flags e.1 e.2 (AList.mem_lookup_iff.2 he)) ?_
    simpa [hasFlag, socialFlag] using hno
  have hfriends := h.limits false
  have hlimit := h.limits true
  unfold getNumberOfSocialsWithFlag at hfriends hlimit
  omega

end

end PlayerSocial

/-! ## Loading -/

/-- **Rows of different contacts** are all loaded when the limits allow that many. -/
theorem loadFromDB_lookup (rows : List SocialRow) (social : PlayerSocialMap) (hkeys : (rows.map SocialRow.friend).Nodup)
    (hnew : ∀ r ∈ rows, social.lookup r.friend = none)
    (hlen : social.entries.length + rows.length ≤ socialLimit false + socialLimit true) :
    (∀ r ∈ rows, (loadFromDB rows social).lookup r.friend = some r.info) ∧
      ∀ f, f ∉ rows.map SocialRow.friend → (loadFromDB rows social).lookup f = social.lookup f := by
  induction rows generalizing social with
  | nil => exact ⟨fun r hr => absurd hr List.not_mem_nil, fun _ _ => rfl⟩
  | cons r rows ih =>
    obtain ⟨hr, hkeys⟩ := List.nodup_cons.1 hkeys
    have hsize : (social.insert r.friend r.info).entries.length = social.entries.length + 1 := by
      rw [AList.entries_insert, List.length_cons]
      exact congrArg (List.length · + 1) (FiniteMap.entries_erase_none (hnew r List.mem_cons_self))
    rw [List.length_cons] at hlen
    unfold loadFromDB
    dsimp only
    split
    · next hfull =>
      -- no row is left when the loop stops
      have hnil : rows = [] := List.eq_nil_of_length_eq_zero (by omega)
      subst hnil
      refine ⟨fun r' hr' => ?_, fun f hf => ?_⟩
      · rw [List.mem_singleton.1 hr', AList.lookup_insert]
      · exact AList.lookup_insert_ne fun hfr => hf (List.mem_singleton.2 hfr)
    · obtain ⟨hin, hout⟩ := ih (social.insert r.friend r.info) hkeys (fun r' hr' => by
        have hne : r'.friend ≠ r.friend := fun hrr => hr (hrr ▸ List.mem_map_of_mem hr')
        rw [AList.lookup_insert_ne hne]
        exact hnew r' (List.mem_cons_of_mem _ hr')) (by omega)
      refine ⟨fun r' hr' => ?_, fun f hf => ?_⟩
      · rcases List.mem_cons.1 hr' with rfl | hr'
        · rw [hout _ hr, AList.lookup_insert]
        · exact hin r' hr'
      · rw [List.map_cons, List.mem_cons, not_or] at hf
        rw [hout f hf.2, AList.lookup_insert_ne hf.1]

namespace PlayerSocial

theorem Mirrored.reload {s : PlayerSocial} (h : s.Mirrored) {rows : List SocialRow} (hperm : rows.Perm s.rows) (f : Nat) :
    (loadFromDB rows ∅).lookup f = s.social.lookup f := by
  have hkeys : (rows.map SocialRow.friend).Nodup := (hperm.map _).nodup_iff.2 h.keys
  have hlen : (∅ : PlayerSocialMap).entries.length + rows.length ≤ socialLimit false + socialLimit true := by
    rw [hperm.length_eq]
    exact Nat.le_trans (Nat.le_of_eq (Nat.zero_add _)) h.rows_length
  obtain ⟨hin, hout⟩ := loadFromDB_lookup rows ∅ hkeys (fun _ _ => AList.lookup_empty _) hlen
  by_cases hf : f ∈ rows.map SocialRow.friend
  · obtain ⟨r, hr, rfl⟩ := List.mem_map.1 hf
    rw [hin r hr]
    exact ((h.same r).1 (hperm.mem_iff.1 hr)).symm
  · rw [hout f hf, AList.lookup_empty]
    cases hs : s.social.lookup f with
    | none => rfl
    | some info =>
      have hr : (⟨f, info⟩ : SocialRow) ∈ rows := hperm.mem_iff.2 ((h.same ⟨f, info⟩).2 hs)
      exact absurd (List.mem_map_of_mem hr) hf

/-- **The rows are the map** after any calls in which each note for a contact, as it is cut, has nothing to be
escaped: the contacts, flags and notes are the same, the rows in any order load to the same map, and
neither list is longer than its limit. -/
theorem social_mirrored (calls : List SocialCall) (hplain : Transition.Along step Plain {} calls) :
    (Transition.run step {} calls).Mirrored ∧
      ∀ rows, rows.Perm (Transition.run step {} calls).rows → ∀ f,
        (loadFromDB rows ∅).lookup f = (Transition.run step {} calls).social.lookup f := by
  have hempty : ({} : PlayerSocial).Mirrored := by
    refine ⟨rfl, List.nodup_nil, fun r => iff_of_false List.not_mem_nil ?_, fun f i hf => ?_, fun _ => Nat.zero_le _⟩
    · rw [AList.lookup_empty]
      exact (Option.some_ne_none _).symm
    · rw [AList.lookup_empty] at hf
      cases hf
  have h := Transition.run_invariant (fun s call h hp => step_mirrored h hp) hempty hplain
  exact ⟨h, fun rows hperm f => h.reload hperm f⟩

/-- A friend gets a note, is ignored too and is no friend any more. -/
theorem social_mirrored_ignored :
    let calls := [.addToSocialList 5 false, .setFriendNote 5 ['h', 'i'], .addToSocialList 5 true,
      .removeFromSocialList 5 false]
    (Transition.run step {} calls).Mirrored ∧
      ∀ rows, rows.Perm (Transition.run step {} calls).rows → ∀ f,
        (loadFromDB rows ∅).lookup f = (Transition.run step {} calls).social.lookup f :=
  social_mirrored _ ⟨trivial, fun _ => ⟨['h', 'i'], rfl, rfl⟩, trivial, trivial, trivial⟩

/-- The map has a backslash that the row has not. -/
theorem note_differs :
    ¬ ∀ calls : List SocialCall, (Transition.run step {} calls).Mirrored ∧
      ∀ rows, rows.Perm (Transition.run step {} calls).rows → ∀ f,
        (loadFromDB rows ∅).lookup f = (Transition.run step {} calls).social.lookup f := by
  intro h
  have hload := (h [.addToSocialList 5 false, .setFriendNote 5 ['\'']]).2 _ List.Perm.rfl 5
  exact absurd hload (by decide)

end PlayerSocial

end BlizzLike.SocialList
