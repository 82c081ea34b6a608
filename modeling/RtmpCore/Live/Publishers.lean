import Mathlib.Data.List.Chain
import RtmpCore.Live.Sinks

/-!
# Publishers and their notices

The registry says which connection publishes a key, the slots of the sessions
say which message streams are publishing, and the start and stop notices tell
the rest of the server.  The three agree as long as a message stream that is
publishing is stopped before it is used for something else, and a key is
published on one message stream at a time.  `KeepsPublications` says so.
-/

namespace RtmpCore.Live

open RtmpCore.Core Chunk Amf0 Support List Function AList Option

/-- Starts and stops alternate, beginning with a start. -/
def Alternate (notices : List Bool) : Prop := notices.IsChain (· ≠ ·) ∧ notices.head? ≠ some false

theorem Alternate.snoc {notices : List Bool} (h : Alternate notices) {isStart : Bool}
    (hlast : isStart = true ↔ notices.getLast? ≠ some true) : Alternate (notices ++ [isStart]) := by
  obtain ⟨hchain, hhead⟩ := h
  constructor
  · rw [isChain_append]
    refine ⟨hchain, by simp, ?_⟩
    intro last hmem first hfst
    cases last <;> cases isStart <;> simp_all
  · cases notices with
    | nil => simpa using hlast
    | cons first rest => simpa using hhead

/-- The notices about a connection and a key: true for a start. -/
def noticesOf (notices : List PublishNotice) (connection : UInt64)
    (streamKey : Bytes) : List Bool :=
  (notices.filter fun notice =>
    notice.connection = connection ∧ notice.streamKey = streamKey).map (·.isStart)

/-- The notices alternate, and the last one is a start exactly for the
connections and keys in the relation. -/
def Told (notices : List PublishNotice) (owns : UInt64 → Bytes → Prop) : Prop :=
  ∀ connection streamKey, Alternate (noticesOf notices connection streamKey) ∧
      ((noticesOf notices connection streamKey).getLast? = some true ↔ owns connection streamKey)

/-- A start notice for what was not owned, or a stop notice for what was. -/
theorem Told.snoc {notices : List PublishNotice}
    {owns owns' : UInt64 → Bytes → Prop} (h : Told notices owns) {notice : PublishNotice}
    (hbef : owns notice.connection notice.streamKey ↔ notice.isStart = false)
    (hafter : ∀ conn key, owns' conn key ↔ if notice.connection = conn ∧ notice.streamKey = key then
        notice.isStart = true
      else owns conn key) :
    Told (notices ++ [notice]) owns' := by
  intro conn key
  obtain ⟨halt, hlast⟩ := h conn key
  rw [hafter]
  by_cases hhere : notice.connection = conn ∧ notice.streamKey = key
  · have hnot : noticesOf (notices ++ [notice]) conn key =
        noticesOf notices conn key ++ [notice.isStart] := by
      simp [noticesOf, hhere]
    obtain ⟨rfl, rfl⟩ := hhere
    rw [hnot, getLast?_concat, if_pos ⟨rfl, rfl⟩]
    refine ⟨halt.snoc ?_, some_inj⟩
    rw [ne_eq, hlast, hbef, Bool.not_eq_false]
  · have hnot : noticesOf (notices ++ [notice]) conn key = noticesOf notices conn key := by
      simp [noticesOf, hhere]
    rw [hnot, if_neg hhere]
    exact ⟨halt, hlast⟩

namespace Ledger

/-- The key that a message stream is publishing. -/
def onAir (l : Ledger) (home : UInt64 × UInt32) : Option Bytes :=
  (l.slots home).bind fun slot => if slot.state = .publishing then some slot.streamKey else none

theorem onAir_setSlot (l : Ledger) (home : UInt64 × UInt32) (slot : Option StreamSlot) :
    (l.setSlot home slot).onAir = update l.onAir home (slot.bind fun slot =>
        if slot.state = .publishing then some slot.streamKey else none) := by
  funext home'
  rcases eq_or_ne home' home with rfl | hne
  · simp [onAir, setSlot]
  · simp [onAir, setSlot, hne]

/-- The keys of a connection are those its message streams publish, except the
ones that are gone; the notices tell so, and no relay is on a message stream
that publishes. -/
structure Posted (l : Ledger) (gone : Set (UInt64 × UInt32)) : Prop where
  owner_iff : ∀ {connection streamKey}, l.publishers streamKey = some connection ↔
      ∃ m, (connection, m) ∉ gone ∧ l.onAir (connection, m) = some streamKey
  unique : ∀ {connection streamKey m m'}, l.onAir (connection, m) = some streamKey →
      l.onAir (connection, m') = some streamKey → m = m'
  nonempty : ∀ {home streamKey}, l.onAir home = some streamKey → streamKey ≠ []
  silent : ∀ {home streamKey}, l.onAir home = some streamKey → l.relays home = none
  told : Told l.notices fun connection streamKey => l.publishers streamKey = some connection

variable {l l' : Ledger} {gone : Set (UInt64 × UInt32)}

/-- The same keys are on the air, and no relay is new. -/
structure SameAir (l l' : Ledger) : Prop where
  onAir : l'.onAir = l.onAir
  publishers : l'.publishers = l.publishers
  notices : l'.notices = l.notices
  relays : ∀ {home}, l.relays home = none → l'.relays home = none

namespace Posted

/-- What is on the air was so before, and nobody has lost or got a key. -/
theorem of_subset {gone' : Set (UInt64 × UInt32)} (h : l.Posted gone)
    (hsub : ∀ {home key}, l'.onAir home = some key →
      l.onAir home = some key ∧ (l.relays home = none → l'.relays home = none))
    (hlive : ∀ {home key}, home ∉ gone' ∧ l'.onAir home = some key ↔
      home ∉ gone ∧ l.onAir home = some key)
    (hpubs : l'.publishers = l.publishers) (hnotices : l'.notices = l.notices) :
    l'.Posted gone' where
  owner_iff {conn key} := by
    rw [hpubs, h.owner_iff]
    exact exists_congr fun m => hlive.symm
  unique hair hair' := h.unique (hsub hair).1 (hsub hair').1
  nonempty hair := h.nonempty (hsub hair).1
  silent hair := (hsub hair).2 (h.silent (hsub hair).1)
  told := by
    rw [hpubs, hnotices]
    exact h.told

theorem congr (h : l.Posted gone) (hsame : l.SameAir l') : l'.Posted gone :=
  h.of_subset (fun hair => ⟨hsame.onAir ▸ hair, hsame.relays⟩) (by rw [hsame.onAir])
    hsame.publishers hsame.notices

theorem onAir_eq_none (h : l.Posted gone) {home : UInt64 × UInt32}
    (hslot : ∀ slot, l.slots home = some slot →
      ¬(slot.state = .publishing ∧ slot.streamKey ≠ [])) : l.onAir home = none := by
  by_contra hsome
  obtain ⟨key, hair⟩ := ne_none_iff_exists'.mp hsome
  have hne := h.nonempty hair
  obtain ⟨slot, hfound, hkey⟩ := bind_eq_some_iff.mp hair
  split_ifs at hkey with hst
  exact hslot slot hfound ⟨hst, by rwa [Option.some.inj hkey]⟩

theorem stop (h : l.Posted gone) {conn : UInt64} {m : UInt32}
    {key : Bytes} (hair : l.onAir (conn, m) = some key) (hnew : (conn, m) ∉ gone) :
    ((l.unregister conn key).noteStop conn key).Posted (insert (conn, m) gone) := by
  have howner : l.publishers key = some conn := h.owner_iff.mpr ⟨m, hnew, hair⟩
  have hpubs : ∀ {connection' streamKey'},
      (l.unregister conn key).publishers streamKey' = some connection' ↔
        streamKey' ≠ key ∧ l.publishers streamKey' = some connection' := by
    intro connection' streamKey'
    rcases eq_or_ne streamKey' key with rfl | hne
    · simp [unregister, howner]
    · simp [unregister, hne]
  refine ⟨?_, h.unique, h.nonempty, h.silent, ?_⟩
  · intro connection' streamKey'
    refine hpubs.trans ⟨?_, ?_⟩
    · rintro ⟨hne, hother⟩
      obtain ⟨m', hstill, hair'⟩ := h.owner_iff.mp hother
      refine ⟨m', ?_, hair'⟩
      rintro (heq | hgone)
      · rw [heq] at hair'
        exact hne (Option.some.inj (hair'.symm.trans hair))
      · exact hstill hgone
    · rintro ⟨m', hstill, hair'⟩
      rw [Set.mem_insert_iff, not_or] at hstill
      have hother := h.owner_iff.mpr ⟨m', hstill.2, hair'⟩
      refine ⟨?_, hother⟩
      rintro rfl
      -- the key has one owner, and the owner one message stream for it
      obtain rfl : connection' = conn := Option.some.inj (hother.symm.trans howner)
      exact hstill.1 (by rw [h.unique hair' hair])
  · apply h.told.snoc
    · simp [howner]
    · intro connection' streamKey'
      rw [noteStop, hpubs]
      by_cases hkey : streamKey' = key
      · subst hkey
        by_cases hconn : conn = connection'
        · simp [hconn]
        · simp [howner]
      · simp [hkey, Ne.symm hkey]

/-- A message stream that has nothing on the air any more gets another slot
that does not publish. -/
theorem setSlot (h : l.Posted gone) (home : UInt64 × UInt32) (slot : Option StreamSlot)
    (hslot : ∀ slot', slot = some slot' → slot'.state ≠ .publishing)
    (hair : home ∉ gone → l.onAir home = none) : (l.setSlot home slot).Posted (gone \ {home}) := by
  have hnone : (slot.bind fun slot =>
      if slot.state = .publishing then some slot.streamKey else none) = none := by
    cases slot with
    | none => rfl
    | some slot => simp [hslot slot rfl]
  have honAir : ∀ {home' key}, (l.setSlot home slot).onAir home' = some key ↔
        home' ≠ home ∧ l.onAir home' = some key := by
    intro home' key
    rw [onAir_setSlot, hnone]
    rcases eq_or_ne home' home with rfl | hne
    · simp
    · simp [hne]
  refine h.of_subset (fun hair' => ⟨(honAir.mp hair').2, id⟩) (fun {home' key} => ?_) rfl rfl
  rw [honAir]
  rcases eq_or_ne home' home with rfl | hne
  · simpa using fun hstill => by simp [hair hstill]
  · simp [hne]

theorem setSlot_of_quiet (h : l.Posted ∅) {home : UInt64 × UInt32} {slot : Option StreamSlot}
    (hslot : ∀ slot', slot = some slot' → slot'.state ≠ .publishing) (hair : l.onAir home = none) :
    (l.setSlot home slot).Posted ∅ := by
  have hset := h.setSlot home slot hslot fun _ => hair
  rwa [Set.empty_sdiff] at hset

/-- A key that nobody publishes goes on the air, on a message stream that
does not publish and has no relay. -/
theorem publish (h : l.Posted ∅) {home : UInt64 × UInt32} {slot : StreamSlot}
    (hst : slot.state = .publishing) (hkey : slot.streamKey ≠ [])
    (hfree : l.publishers slot.streamKey = none) (hair : l.onAir home = none)
    (hrelay : l.relays home = none) : (l.publish home slot).Posted ∅ := by
  have honAir : ∀ {home' key}, (l.publish home slot).onAir home' = some key ↔
        if home' = home then slot.streamKey = key
        else l.onAir home' = some key := by
    intro home' key
    have hset := congrFun (l.onAir_setSlot home (some slot)) home'
    have hsame : (l.publish home slot).onAir home' = (l.setSlot home (some slot)).onAir home' := rfl
    rw [hsame, hset]
    rcases eq_or_ne home' home with rfl | hne
    · simp [hst]
    · simp [hne]
  have hpubs : ∀ {conn key}, (l.publish home slot).publishers key = some conn ↔
        if key = slot.streamKey then home.1 = conn
        else l.publishers key = some conn := by
    intro conn key
    rcases eq_or_ne key slot.streamKey with rfl | hne
    · simp [Ledger.publish]
    · simp [Ledger.publish, hne]
  -- nothing else has the new key on the air
  have hnew : ∀ {home'}, l.onAir home' ≠ some slot.streamKey := by
    intro home' hair'
    have howner := h.owner_iff.mpr ⟨home'.2, Set.notMem_empty _, hair'⟩
    simp [hfree] at howner
  constructor
  · intro conn key
    rw [hpubs]
    split
    case isTrue heq =>
      subst heq
      constructor
      · rintro rfl
        exact ⟨home.2, Set.notMem_empty _, honAir.mpr (by simp)⟩
      · rintro ⟨m, -, hair'⟩
        rw [honAir] at hair'
        split_ifs at hair' with hhome
        · rw [← hhome]
        · exact absurd hair' hnew
    case isFalse hne =>
      refine h.owner_iff.trans ⟨?_, ?_⟩
      · rintro ⟨m, -, hair'⟩
        have hother : (conn, m) ≠ home := by
          rintro rfl
          simp [hair] at hair'
        exact ⟨m, Set.notMem_empty _, honAir.mpr (by rwa [if_neg hother])⟩
      · rintro ⟨m, -, hair'⟩
        rw [honAir] at hair'
        split_ifs at hair' with hhome
        · exact absurd hair'.symm hne
        · exact ⟨m, Set.notMem_empty _, hair'⟩
  · intro conn key m m' h₁ h₂
    rw [honAir] at h₁ h₂
    split_ifs at h₁ h₂ with hm hm' hm'
    · exact congrArg Prod.snd (hm.trans hm'.symm)
    · exact absurd (h₁ ▸ h₂) hnew
    · exact absurd (h₂ ▸ h₁) hnew
    · exact h.unique h₁ h₂
  · intro home' key hair'
    rw [honAir] at hair'
    split_ifs at hair'
    · exact hair' ▸ hkey
    · exact h.nonempty hair'
  · intro home' key hair'
    rw [honAir] at hair'
    split_ifs at hair' with hhome
    · rw [hhome]
      exact hrelay
    · exact h.silent hair'
  · apply h.told.snoc
    · simp [hfree]
    · intro conn key
      rw [hpubs]
      rcases eq_or_ne key slot.streamKey with rfl | hne
      · simp [hfree]
      · simp [hne, hne.symm]

theorem attach (h : l.Posted gone) {home : UInt64 × UInt32} (worker : ℕ)
    (sid : StreamId) (hair : l.onAir home = none) : (l.attach home worker sid).Posted gone :=
  { h with
    silent {home' streamKey} hair' := by
      have hair'' : l.onAir home' = some streamKey := hair'
      have hne : home' ≠ home := by
        rintro rfl
        simp [hair] at hair''
      simpa [Ledger.attach, hne] using h.silent hair'' }

end Posted

/-- No relay is on a message stream that publishes. -/
def Silent (l : Ledger) : Prop :=
  ∀ {home streamKey}, l.onAir home = some streamKey → l.relays home = none

variable {loose : Set SinkRef} {conn : UInt64}

theorem Evict.sameAir (h : l.Evict l') (htend : l.Tended loose) (hsil : l.Silent) :
    l.SameAir l' := by
  obtain ⟨seat, sink, hheld, rfl⟩ := h
  have hal : sink ∈ (l.withHeld (update l.held seat none)).alive :=
    htend.custody.alive_of_held hheld
  rw [finish_of_alive hal]
  refine ⟨?_, rfl, rfl, ?_⟩
  · funext home
    rcases eq_or_ne home sink.home with rfl | hne
    · -- a message stream with a relay is not on the air
      have hquiet : l.onAir sink.home = none := by
        by_contra hsome
        obtain ⟨key, hair⟩ := ne_none_iff_exists'.mp hsome
        have hrelay : l.relays sink.home = some sink.subscriberId := hal
        simp [hsil hair] at hrelay
      rw [hquiet]
      cases hslot : l.slots sink.home with
      | none | some => simp [onAir, endPlayback]
    · simp [onAir, endPlayback, withHeld, hne]
  · intro home hnone
    rcases eq_or_ne home sink.home with rfl | hne
    · simp [endPlayback]
    · simpa [endPlayback, withHeld, hne] using hnone

theorem Evicts.sameAir (h : l.Evicts l') (htend : l.Tended loose) (hsil : l.Silent) :
    l.SameAir l' := by
  induction h with
  | refl => exact ⟨rfl, rfl, rfl, id⟩
  | @tail l₁ l₂ hevicts hevict ih =>
    have hsil' : l₁.Silent := fun hair => ih.relays (hsil (ih.onAir ▸ hair))
    have hlast := hevict.sameAir (htend.evicts hevicts) hsil'
    exact ⟨hlast.onAir.trans ih.onAir, hlast.publishers.trans ih.publishers,
      hlast.notices.trans ih.notices, fun hnone => hlast.relays (ih.relays hnone)⟩

theorem Posted.evicts (h : l.Posted gone)
    (htend : l.Tended loose) (hevict : l.Evicts l') : l'.Posted gone :=
  h.congr (hevict.sameAir htend h.silent)

theorem Posted.stop_evicts (h : l.Posted gone) (htend : l.Tended loose) {m : UInt32}
    {key : Bytes} (hair : l.onAir (conn, m) = some key) (hnew : (conn, m) ∉ gone)
    (hevict : (l.unregister conn key).Evicts l') :
    l'.onAir = l.onAir ∧ (l'.noteStop conn key).Posted (insert (conn, m) gone) := by
  have htend' := htend.unregister conn key
  have hsame := hevict.sameAir htend' h.silent
  refine ⟨hsame.onAir, (h.stop hair hnew).congr { hsame with notices := ?_ }⟩
  simp [noteStop, hsame.notices]

theorem Posted.skip (h : l.Posted gone) {home : UInt64 × UInt32} (hair : l.onAir home = none) :
    l.Posted (insert home gone) := by
  refine h.of_subset (fun hair => ⟨hair, id⟩) (fun {home' key} => ?_) rfl rfl
  rcases eq_or_ne home' home with rfl | hne
  · simp [hair]
  · simp [hne]

/-- The message streams of a connection that have been visited. -/
def visitedHomes (connection : UInt64) (visited : List UInt32) : Set (UInt64 × UInt32) :=
  {home | home.1 = connection ∧ home.2 ∈ visited}

theorem visitedHomes_cons (conn : UInt64) (m : UInt32) (visited : List UInt32) :
    visitedHomes conn (m :: visited) = insert (conn, m) (visitedHomes conn visited) := by
  ext ⟨connection', m'⟩
  simp only [visitedHomes, Set.mem_ofPred_eq, mem_cons, Set.mem_insert_iff, Prod.mk.injEq]
  tauto

/-- When all publications of a connection have been stopped, its tables can be
cleared. -/
theorem Posted.clear {visited : List UInt32} (h : l.Posted (visitedHomes conn visited))
    (hvis : ∀ {m key}, l.onAir (conn, m) = some key → m ∈ visited) :
    (l.clearConnection conn).Posted ∅ ∧
      ∀ key, (l.clearConnection conn).publishers key ≠ some conn := by
  have hnone : ∀ key, l.publishers key ≠ some conn := by
    intro key howner
    obtain ⟨m, hstill, hair⟩ := h.owner_iff.mp howner
    exact hstill ⟨rfl, hvis hair⟩
  have hpubs : (l.clearConnection conn).publishers = l.publishers := by
    funext key
    exact if_neg (hnone key)
  have honAir : ∀ {home key}, (l.clearConnection conn).onAir home = some key ↔
        home.1 ≠ conn ∧ l.onAir home = some key := by
    rintro ⟨connection', m⟩ key
    by_cases hconn : connection' = conn
    · simp [onAir, clearConnection, withSession, Table.setRow, hconn]
    · simp [onAir, clearConnection, withSession, Table.setRow, hconn]
  refine ⟨h.of_subset ?_ ?_ hpubs rfl, fun key => hpubs ▸ hnone key⟩
  · intro home key hair
    obtain ⟨hne, hair⟩ := honAir.mp hair
    exact ⟨hair, by simp [clearConnection, withSession, Table.setRow, hne]⟩
  · intro home key
    rw [honAir, ← and_assoc]
    refine and_congr_left fun hair => ?_
    by_cases hconn : home.1 = conn
    · subst hconn
      simp [visitedHomes, hvis hair]
    · simp [visitedHomes, hconn]

end Ledger

namespace World

def publishes (w : World) (connection : UInt64) (messageStreamId : UInt32) : Bool :=
  (w.slot connection messageStreamId).any fun slot => slot.state = .publishing

theorem onAir_eq_none {w : World} {conn : UInt64} {m : UInt32} (h : w.publishes conn m = false) :
    w.ledger.onAir (conn, m) = none := by
  have hslot : w.ledger.slots (conn, m) = w.slot conn m := rfl
  unfold publishes at h
  cases hsome : w.slot conn m with
  | none => simp [Ledger.onAir, hslot, hsome]
  | some slot => simp_all [Ledger.onAir]

/-- The command does not take over a message stream that is publishing, and
publishes a nonempty key that nobody publishes, on a message stream without a
relay. -/
def commandKeeps (w : World) (connection : UInt64) (command : Amf0Command)
    (messageStreamId : UInt32) (answers : Answers) : Bool :=
  match CommandName.ofText command.name with
  | some .createStream => !w.publishes connection (w.sessions connection).nextStreamId
  | some .publish =>
    (w.publishedKey connection answers command).all fun streamKey =>
      streamKey ≠ [] && (w.registry.owner streamKey).isNone &&
        !w.publishes connection messageStreamId && (w.relay connection messageStreamId).isNone
  | some .play =>
    !playAuthorized (w.sessions connection).config answers ||
      !w.publishes connection messageStreamId
  | _ => true

end World

/-- The connection keeps its relays, and gives up a publication only by
`deleteStream` or by closing. -/
def KeepsPublications (w : World) (action : Action) : Prop :=
  KeepsRelays w action ∧ match action with
    | .message connection message answers =>
      (World.commandOf message).all fun command =>
        w.commandKeeps connection command message.messageStreamId answers
    | _ => True

instance (w : World) (action : Action) : Decidable (KeepsPublications w action) := by
  unfold KeepsPublications
  split <;> infer_instance

namespace World

variable {w : World} {conn : UInt64} {m : UInt32} {order visited : List UInt32}

theorem sameAir_unseat (l : Ledger) (home : UInt64 × UInt32) (sid : StreamId) :
    l.SameAir (l.unseat home sid) := by
  unfold Ledger.unseat
  split <;> exact ⟨rfl, rfl, rfl, id⟩

/-- Visiting a message stream at the end of the connection stops what it has
on the air. -/
theorem Closes.posted {l : Ledger} (hc : Closes w conn m l) {loose : Set SinkRef}
    (hclo : w.ledger.Closing conn order visited loose)
    (h : w.ledger.Posted (Ledger.visitedHomes conn visited)) (hnew : m ∉ visited) :
    l.onAir = w.ledger.onAir ∧ l.Posted (Ledger.visitedHomes conn (m :: visited)) := by
  rw [Ledger.visitedHomes_cons]
  cases hc with
  | @stop slot _ hslot hst hevict =>
    have hair : w.ledger.onAir (conn, m) = some slot.streamKey := by simp [Ledger.onAir, hslot, hst]
    exact h.stop_evicts hclo.tended hair (fun hgone => hnew hgone.2) hevict
  | @unseat slot hslot hst _ =>
    have hair : w.ledger.onAir (conn, m) = none := by simp [Ledger.onAir, hslot, hst]
    have hsame := sameAir_unseat w.ledger (conn, m) slot.streamId
    exact ⟨hsame.onAir, (h.skip hair).congr hsame⟩
  | skip hidle =>
    have hair := h.onAir_eq_none fun slot hslot hon => hidle slot hslot ⟨by simp [hon.1], hon.2⟩
    exact ⟨rfl, h.skip hair⟩

theorem posted_onConnectionClosed (h : w.ledger.Posted ∅)
    (htend : w.ledger.Tended ∅) (order : List UInt32)
    (hplay : ∀ m ∈ (w.sessions conn).playbackRelays.keys, (w.slot conn m).any StreamSlot.plays) :
    (w.onConnectionClosed conn order).ledger.Posted ∅ ∧ ∀ key,
        (w.onConnectionClosed conn order).ledger.publishers key ≠ some conn := by
  have hpost : w.ledger.Posted (Ledger.visitedHomes conn []) := by
    have hemp : Ledger.visitedHomes conn [] = ∅ := by simp [Ledger.visitedHomes]
    rwa [hemp]
  have hnd : (w.visitOrder conn order).Nodup := nodup_dedup _
  obtain ⟨loose, -, honAir, hdone⟩ := Run.foldl_visits (closeSlot conn)
    (fun visited w' => ∃ loose, w'.ledger.Closing conn (w.visitOrder conn order) visited loose ∧
      w'.ledger.onAir = w.ledger.onAir ∧ w'.ledger.Posted (Ledger.visitedHomes conn visited))
    hnd ⟨∅, closing_visitOrder htend order hplay, rfl, hpost⟩
    fun {_ w' m} hnew ⟨_, hclo, hsame, hposted⟩ => by
      obtain ⟨loose, hclo'⟩ := (closes_closeSlot w' conn m).closing hclo hnew
      obtain ⟨hair, hposted'⟩ := (closes_closeSlot w' conn m).posted hclo hposted hnew
      exact ⟨loose, hclo', hair.trans hsame, hposted'⟩
  rw [ledger_onConnectionClosed]
  apply hdone.clear
  intro m key hair
  rw [honAir] at hair
  obtain ⟨slot, hslot, -⟩ := bind_eq_some_iff.mp hair
  have hkey := mem_visitOrder order hslot
  simpa using hkey

theorem Handles.posted {act : Action} {l : Ledger} (hh : Handles w act l) (h : w.ledger.Posted ∅)
    (htend : w.ledger.Tended ∅) (hkeeps : KeepsPublications w act) : l.Posted ∅ := by
  obtain ⟨hrels, hkeeps⟩ := hkeeps
  cases hh with
  | evicts hevict => exact h.evicts htend hevict
  | @createStream conn _ _ _ hcmd =>
    have hquiet : w.publishes conn (w.sessions conn).nextStreamId = false := by
      simpa [hcmd.1, commandKeeps, hcmd.2] using hkeeps
    exact h.setSlot_of_quiet (by rintro _ ⟨rfl⟩; simp) (onAir_eq_none hquiet)
  | publish hcmd hkey hst =>
    simp only [hcmd.1, commandKeeps, hcmd.2, hkey, all_some, Bool.and_eq_true,
      decide_eq_true_eq, isNone_iff_eq_none, Bool.not_eq_true'] at hkeeps
    obtain ⟨⟨⟨hne, hfree⟩, hquiet⟩, hrelay⟩ := hkeeps
    apply h.publish hst hne hfree (onAir_eq_none hquiet)
    simp [ledger, hrelay]
  | @play conn msg _ _ _ hcmd hauth _ hslot =>
    have hquiet : w.publishes conn msg.messageStreamId = false := by
      simpa [hcmd.1, commandKeeps, hcmd.2, hauth] using hkeeps
    exact h.setSlot_of_quiet (by rintro _ ⟨rfl⟩; simp [hslot, playingSlot]) (onAir_eq_none hquiet)
  | @attach conn msg _ _ slot _ hcmd hauth _ hslot =>
    have hquiet : w.publishes conn msg.messageStreamId = false := by
      simpa [hcmd.1, commandKeeps, hcmd.2, hauth] using hkeeps
    have hset : (w.ledger.setSlot (conn, msg.messageStreamId) (some slot)).Posted ∅ :=
      h.setSlot_of_quiet (by rintro _ ⟨rfl⟩; simp [hslot, playingSlot]) (onAir_eq_none hquiet)
    apply hset.attach
    rw [Ledger.onAir_setSlot]
    simp [hslot, playingSlot]
  | @stop conn _ _ m slot _ hslot hst hevict =>
    have hair : w.ledger.onAir (conn, m) = some slot.streamKey := by simp [Ledger.onAir, hslot, hst]
    have hstop := (h.stop_evicts htend hair (Set.notMem_empty _) hevict).2
    have heras := hstop.setSlot (conn, m) none (by simp)
      fun hnot => absurd (Set.mem_insert _ _) hnot
    simpa using heras
  | @delete conn _ _ m _ _ hslot hother hevict =>
    have hair := h.onAir_eq_none fun slot' hslot' hon =>
      hother (Option.some.inj (hslot.symm.trans hslot') ▸ hon)
    have hsame := (hevict.sameAir htend h.silent).onAir
    exact (h.evicts htend hevict).setSlot_of_quiet (by simp) (hsame ▸ hair)
  | closed => exact (posted_onConnectionClosed h htend _ hrels).1

theorem posted_perform {act : Action} (h : w.ledger.Posted ∅)
    (htend : w.ledger.Tended ∅) (hkeeps : KeepsPublications w act) :
    (w.perform act).ledger.Posted ∅ :=
  (handles_perform htend act).posted h htend hkeeps

theorem posted_initial (cfg : UInt64 → SessionConfig) (fanout : ℕ → GopLimits × QueueLimits × ℕ) :
    (initial cfg fanout).ledger.Posted ∅ where
  owner_iff := by
    intro conn key
    constructor
    · rintro ⟨⟩
    · rintro ⟨m, -, ⟨⟩⟩
  unique := by rintro _ _ _ _ ⟨⟩
  nonempty := by rintro _ _ ⟨⟩
  silent := by rintro _ _ ⟨⟩
  told := by
    intro conn key
    refine ⟨⟨by simp [noticesOf, ledger, initial], ?_⟩, ?_⟩
    · simp [noticesOf, ledger, initial]
    · simp [noticesOf, ledger, initial]

/-- The keys that the registry attributes to a connection. -/
def registeredKeys (w : World) (connection : UInt64) : Set Bytes :=
  {streamKey | w.registry.owner streamKey = some connection}

/-- The stream keys of the slots of a connection that are publishing. -/
def publishingKeys (w : World) (connection : UInt64) : Set Bytes :=
  {streamKey | ∃ m slot, w.slot connection m = some slot ∧
    slot.state = .publishing ∧ slot.streamKey = streamKey}

/-- The start (true) and stop (false) notices of a connection for a key. -/
def publishNotices (w : World) (connection : UInt64) (streamKey : Bytes) : List Bool :=
  noticesOf (w.log.filterMap Event.notice) connection streamKey

theorem mem_publishingKeys_iff (w : World) (conn : UInt64) (key : Bytes) :
    key ∈ w.publishingKeys conn ↔ ∃ m, w.ledger.onAir (conn, m) = some key := by
  constructor
  · rintro ⟨m, slot, hslot, hst, rfl⟩
    have hled : w.ledger.slots (conn, m) = some slot := hslot
    exact ⟨m, by simp [Ledger.onAir, hled, hst]⟩
  · rintro ⟨m, hair⟩
    obtain ⟨slot, hslot, hkey⟩ := bind_eq_some_iff.mp hair
    split_ifs at hkey with hst
    exact ⟨m, slot, hslot, hst, Option.some.inj hkey⟩

/-- In every state of a run that keeps its publications, the registry
attributes to each connection exactly the keys its slots are publishing.  The
notices about a connection and a key alternate, and the last one is a start
exactly while the key is being published.  Once the connection has closed, it
has no key and every start has been followed by a stop. -/
theorem registeredKeys_eq_publishingKeys (config : UInt64 → SessionConfig)
    (fanout : ℕ → GopLimits × QueueLimits × ℕ) (actions : List Action)
    (h : Run.Along perform KeepsPublications (initial config fanout) actions) :
    let w := Run.run perform (initial config fanout) actions
    (∀ connection, w.registeredKeys connection = w.publishingKeys connection) ∧
    (∀ connection streamKey, Alternate (w.publishNotices connection streamKey) ∧
        ((w.publishNotices connection streamKey).getLast? = some true ↔
          streamKey ∈ w.publishingKeys connection)) ∧
    ∀ connection order, actions.getLast? = some (.closed connection order) →
      w.registeredKeys connection = ∅ ∧ ∀ streamKey,
          (w.publishNotices connection streamKey).getLast? ≠ some true := by
  intro w
  have hrun : ∀ actions, Run.Along perform KeepsPublications (initial config fanout) actions →
        let w := Run.run perform (initial config fanout) actions
        w.ledger.Tended ∅ ∧ w.ledger.Posted ∅ :=
    fun actions halong =>
      Run.run_invariant (fun w => w.ledger.Tended ∅ ∧ w.ledger.Posted ∅) halong
        ⟨tended_initial config fanout, posted_initial config fanout⟩
        fun _ _ hkeeps hinv => ⟨tended_perform hinv.1 hkeeps.1, posted_perform hinv.2 hinv.1 hkeeps⟩
  obtain ⟨-, hposted⟩ := hrun actions h
  have hkeys : ∀ connection streamKey, w.registry.owner streamKey = some connection ↔
      streamKey ∈ w.publishingKeys connection := by
    intro connection streamKey
    rw [mem_publishingKeys_iff]
    refine hposted.owner_iff.trans ⟨?_, ?_⟩
    · rintro ⟨m, -, hair⟩
      exact ⟨m, hair⟩
    · rintro ⟨m, hair⟩
      exact ⟨m, Set.notMem_empty _, hair⟩
  refine ⟨?_, ?_, ?_⟩
  · intro connection
    ext streamKey
    exact hkeys connection streamKey
  · intro connection streamKey
    obtain ⟨halternate, hlast⟩ := hposted.told connection streamKey
    exact ⟨halternate, hlast.trans (hkeys connection streamKey)⟩
  · intro connection order hlast
    obtain ⟨before, rfl⟩ := getLast?_eq_some_iff.mp hlast
    obtain ⟨hbefore, hclosed, -⟩ := Run.along_append.mp h
    obtain ⟨htended', hposted'⟩ := hrun before hbefore
    have hgone := (posted_onConnectionClosed hposted' htended' order hclosed.1).2
    have hfinal : w =
        (Run.run perform (initial config fanout) before).onConnectionClosed connection order :=
      foldl_append
    rw [← hfinal] at hgone
    constructor
    · ext streamKey
      exact ⟨fun hmem => absurd hmem (hgone streamKey), fun hmem => hmem.elim⟩
    · intro streamKey hstart
      exact hgone streamKey ((hposted.told connection streamKey).2.mp hstart)

/-- A publisher goes on the air, another one is refused the key, and takes it
over when the first one is done. -/
def publisherChanges : List Action :=
  [.message 1 (commandMessage .publish 1 [.string "a"]) {},
    .message 2 (commandMessage .publish 1 [.string "a"]) {},
    .message 1 (commandMessage .deleteStream 0 [.number (doubleOfNat 1)]) {},
    .message 2 (commandMessage .publish 1 [.string "a"]) {}, .closed 2 []]

theorem registeredKeys_publisherChanges :
    Run.Along perform KeepsPublications oneWorker publisherChanges ∧
      (Run.run perform oneWorker publisherChanges).registeredKeys 2 = ∅ :=
  have halong : Run.Along perform KeepsPublications oneWorker
      publisherChanges := by
    decide +kernel
  ⟨halong, ((registeredKeys_eq_publishingKeys _ _ publisherChanges halong).2.2 2 [] rfl).1⟩

/-- A message stream is published under one key and then under another. -/
def publishesOver : List Action :=
  [.message 1 (commandMessage .publish 1 [.string "a"]) {},
    .message 1 (commandMessage .publish 1 [.string "b"]) {}, .closed 1 []]

/-- A key is published on two message streams. -/
def publishesTwice : List Action :=
  [.message 1 (commandMessage .publish 1 [.string "a"]) {},
    .message 1 (commandMessage .publish 2 [.string "a"]) {}]

/-- The first key stays registered although no slot publishes it, and its
start notice is never followed by a stop.  A key on two message streams is
started twice. -/
theorem publishesOver_leaves_key :
    (Run.run perform oneWorker (publishesOver.take 2)).registeredKeys 1 ≠
        (Run.run perform oneWorker (publishesOver.take 2)).publishingKeys 1 ∧
      (Run.run perform oneWorker publishesOver).publishNotices 1
        "a" = [true] ∧
      ¬Alternate ((Run.run perform oneWorker publishesTwice).publishNotices 1
        "a") := by
  obtain ⟨hregistered, hslots⟩ : let w := Run.run perform oneWorker (publishesOver.take 2)
      w.registry.owner "a" = some 1 ∧ (w.sessions 1).streams.keys.all fun m =>
        (w.slot 1 m).all fun slot => slot.streamKey ≠ textBytes "a" := by
    decide +kernel
  refine ⟨?_, by decide +kernel, ?_⟩
  · generalize Run.run perform oneWorker (publishesOver.take 2) = w at hregistered hslots ⊢
    intro heq
    have hmem : textBytes "a" ∈ w.publishingKeys 1 := by
      rw [← heq]
      exact hregistered
    obtain ⟨m, slot, hslot, -, hkey⟩ := hmem
    have hm : m ∈ (w.sessions 1).streams.keys :=
      mem_keys.mpr (lookup_isSome.mp (isSome_of_mem hslot))
    have hother := all_eq_true.mp hslots m hm
    rw [hslot] at hother
    simp [hkey] at hother
  · have htwice : (Run.run perform oneWorker publishesTwice).publishNotices 1
        "a" = [true, true] := by
      decide +kernel
    rw [htwice]
    simp [Alternate]

end World

end RtmpCore.Live
