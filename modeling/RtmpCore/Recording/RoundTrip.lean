import RtmpCore.Recording.Contents

/-!
# A recording is what was recorded

Whatever the sink answers, the operations it accepts have one of a few shapes:
nothing, the header alone, or the header, the metadata tag and some of the media
tags in their order, and behind them the first patches.  The recorder keeps an
account of its own of this: its offset is the number of bytes that were
appended.

The proof follows the methods call by call.  `Active` relates a recorder that
still records to the account of the exchange; `Shape` is what holds of the
account after every single call.
-/

namespace RtmpCore.Recording

open RtmpCore.Core Chunk Media.Flv List Prog Contents

/-- The shape of an account when the tags `sent` were offered. -/
inductive Shape (sent : List Tag) (a : Account) : Prop
  | unopened (hlate : a.late = false) (hops : a.ops = [] ∨ a.ops = [.append Recorder.header])
      (hpatches : a.patches = []) (hclosed : a.closed = true → a.failed = true)
  | opened (x : Contents) (k : ℕ) (hk : k ≤ 2) (hlate : a.late = false)
      (hsent : x.tags.Sublist sent)
      (hops : a.ops = x.ops ++ (x.patches.take k).map fun p => .patch p.1 p.2)
      (hpatches : a.patches = x.patches.take k ∨ a.patches = x.patches.take (k + 1))
      (hclosed : a.closed = true → a.failed = true ∨ k = 2)

theorem Shape.mono {sent sent' : List Tag} {a : Account} (h : Shape sent a)
    (hsent : sent.Sublist sent') : Shape sent' a := by
  cases h with
  | unopened hlate hops hpat hcl => exact .unopened hlate hops hpat hcl
  | opened x k hk hlate hx hops hpat hcl =>
    exact .opened x k hk hlate (hx.trans hsent) hops hpat hcl

theorem Shape.late_eq {sent : List Tag} {a : Account} (h : Shape sent a) : a.late = false := by
  cases h with
  | unopened hlate => exact hlate
  | opened _ _ _ hlate => exact hlate

namespace Recorder

/-- The metadata tag is not out: nothing is, or the header alone. -/
structure Unopened (r : Recorder) (a : Account) : Prop where
  metadataWritten : r.stats.metadataWritten = false
  maxTimestamp : r.stats.maxTimestamp = 0
  written : (a.ops = [] ∧ r.fileOffset = 0 ∧ (r.started = true → r.stats.failed = true)) ∨
    (a.ops = [.append header] ∧ r.fileOffset = header.length ∧ r.started = true)

/-- The contents `x` are out. -/
structure Opened (x : Contents) (r : Recorder) (a : Account) : Prop where
  metadataWritten : r.stats.metadataWritten = true
  maxTimestamp : r.stats.maxTimestamp = x.maxTimestamp
  fileOffset : r.fileOffset = x.file.length
  durationPatchOffset : r.durationPatchOffset = some x.durationOffset
  filesizePatchOffset : r.filesizePatchOffset = some x.filesizeOffset
  ops : a.ops = x.ops

/-- A recorder that has not begun to finalize its file. -/
structure Active (sent : List Tag) (r : Recorder) (a : Account) : Prop where
  failed : a.failed = r.stats.failed
  closed : a.closed = false
  late : a.late = false
  patches : a.patches = []
  body : r.Unopened a ∨ ∃ x : Contents, x.tags.Sublist sent ∧ r.Opened x a

/-- A recorder whose file was finalized. -/
structure Settled (sent : List Tag) (r : Recorder) (a : Account) : Prop where
  shape : Shape sent a
  closed : a.closed = true
  fileOffset : r.fileOffset = (appended a.ops).flatten.length

variable {sent sent' : List Tag} {r : Recorder} {a : Account}

section

variable (h : r.Active sent a)
include h

theorem Active.mono (hsent : sent.Sublist sent') : r.Active sent' a :=
  { h with
    body := h.body.imp_right fun ⟨x, hx, hop⟩ => ⟨x, hx.trans hsent, hop⟩ }

theorem Active.shape : Shape sent a := by
  have hcl : a.closed = true → a.failed = true := by
    rw [h.closed]
    exact nofun
  rcases h.body with hunop | ⟨x, hx, hop⟩
  · exact .unopened h.late (hunop.written.imp (fun hblank => hblank.1) (fun hheaded => hheaded.1))
      h.patches hcl
  · exact .opened x 0 (Nat.zero_le 2) h.late hx (by simp [hop.ops])
      (.inl h.patches) (fun hc => .inl (hcl hc))

theorem Active.fileOffset_eq : r.fileOffset = (appended a.ops).flatten.length := by
  rcases h.body with hunop | ⟨x, -, hop⟩
  · rcases hunop.written with ⟨hops, hoff, -⟩ | ⟨hops, hoff, -⟩
    · rw [hops, hoff]
      rfl
    · rw [hops, hoff]
      rfl
  · have hpcs := appended_appends_patches x.pieces []
    rw [map_nil, append_nil] at hpcs
    rw [hop.ops, hop.fileOffset, Contents.ops, hpcs, Contents.file]

/-- Without its metadata tag the file is not opened, and with it it is. -/
theorem Active.unopened (hwrit : r.stats.metadataWritten = false) : r.Unopened a := by
  rcases h.body with hunop | ⟨x, -, hop⟩
  · exact hunop
  · exact absurd (hop.metadataWritten ▸ hwrit) (by decide)

theorem Active.contents (hopen : r.stats.metadataWritten = true) :
    ∃ x : Contents, x.tags.Sublist sent ∧ r.Opened x a := by
  rcases h.body with hunop | hop
  · exact absurd (hunop.metadataWritten ▸ hopen) (by decide)
  · exact hop

/-! ## Opening the file -/

/-- A refusal that breaks the file.  The recorder may have noted before it that
it has started. -/
theorem Active.refused (started : Bool)
    (hsta : r.started = true → started = true) (data : Bytes) (e : Error)
    (hvital : a.ops.length < 2 ∨ e.code ≠ .resourceExhausted) :
    { r with started }.markFailed.Active sent (a.note ⟨.append data, .error e⟩) where
  failed := by
    have hbreaks : (decide (a.ops.length < 2) || decide (e.code ≠ .resourceExhausted)) = true := by
      simpa using hvital
    simp only [Account.note, Bool.or_assoc, hbreaks, Bool.or_true, markFailed]
  closed := h.closed
  late := by simp [Account.note, h.late, h.closed]
  patches := h.patches
  body := by
    rcases h.body with hunop | ⟨x, hx, hop⟩
    · exact .inl
        { metadataWritten := hunop.metadataWritten
          maxTimestamp := hunop.maxTimestamp
          written := hunop.written.imp (fun ⟨hops, hoff, _⟩ => ⟨hops, hoff, fun _ => rfl⟩)
            (fun ⟨hops, hoff, hs⟩ => ⟨hops, hoff, hsta hs⟩) }
    · exact .inr ⟨x, hx, { hop with }⟩

theorem Active.headed (hunop : r.Unopened a)
    (hops : a.ops = []) (hoff : r.fileOffset = 0) (bytesWritten : ℕ) : { r with
      started := true
      fileOffset := r.fileOffset + header.length
      stats := { r.stats with bytesWritten } }.Active sent (a.note ⟨.append header, .ok ()⟩) :=
  { h with
    late := by simp [Account.note, h.late, h.closed]
    body := .inl
      { metadataWritten := hunop.metadataWritten
        maxTimestamp := hunop.maxTimestamp
        written := .inr ⟨by simp [Account.note, hops], by simp [hoff], rfl⟩ } }

theorem ensureStarted_meets (hwrit : r.stats.metadataWritten = false) :
    Meets Account.note (Shape sent)
      (fun a' r' => r'.Active sent a' ∧ r'.stats.metadataWritten = false ∧
        (r'.stats.failed = true ∨ a'.ops = [.append header]) ∧
        r'.finalized = r.finalized)
      a r.ensureStarted := by
  have hunop := h.unopened hwrit
  unfold ensureStarted
  split
  case isTrue hskip =>
    refine meets_pure.mpr ⟨h, hwrit, ?_, rfl⟩
    rcases hunop.written with ⟨-, -, hsta⟩ | ⟨hops, -, -⟩
    · rcases Bool.or_eq_true_iff.mp hskip with hs | hf
      exacts [.inl (hsta hs), .inl hf]
    · exact .inr hops
  case isFalse hfsh =>
    simp only [Bool.or_eq_true, not_or] at hfsh
    obtain ⟨hops, hoff⟩ : a.ops = [] ∧ r.fileOffset = 0 := by
      rcases hunop.written with ⟨hops, hoff, -⟩ | ⟨-, -, hsta⟩
      · exact ⟨hops, hoff⟩
      · exact absurd (hsta ▸ hfsh.1) (by decide)
    refine meets_request_bind.mpr fun answer => ?_
    cases answer with
    | error e =>
      have href := h.refused true (fun _ => rfl) header e (.inl (by simp [hops]))
      exact ⟨href.shape, meets_pure.mpr ⟨href, hwrit, .inl rfl, rfl⟩⟩
    | ok _ =>
      have hheaded := h.headed hunop hops hoff (r.stats.bytesWritten + header.length)
      exact ⟨hheaded.shape, meets_pure.mpr ⟨hheaded, hwrit,
        .inr (by simp [Account.note, hops]), rfl⟩⟩

theorem Active.opened (hops : a.ops = [.append header])
    (hunop : r.Unopened a) (bytesWritten tagsWritten : ℕ) : { r with
      durationPatchOffset :=
        some (r.fileOffset + (buildOnmetadataTag r.metadata 0).durationValueOffset)
      filesizePatchOffset :=
        some (r.fileOffset + (buildOnmetadataTag r.metadata 0).filesizeValueOffset)
      fileOffset := r.fileOffset + (buildOnmetadataTag r.metadata 0).bytes.length
      stats := { r.stats with
        bytesWritten, tagsWritten, metadataWritten := true } }.Active sent
        (a.note ⟨.append (buildOnmetadataTag r.metadata 0).bytes, .ok ()⟩) := by
  have hoff : r.fileOffset = header.length := by
    rcases hunop.written with ⟨hblank, -, -⟩ | ⟨-, hoff, -⟩
    · exact absurd (hops.symm.trans hblank) nofun
    · exact hoff
  have hfile : (Contents.file ⟨r.metadata, []⟩).length =
      header.length + (buildOnmetadataTag r.metadata 0).bytes.length := by
    rw [file_eq, bytes_metadataTag, flatMap_nil, append_nil, length_append]
  exact
    { failed := h.failed
      closed := h.closed
      late := by simp [Account.note, h.late, h.closed]
      patches := h.patches
      body := .inr ⟨⟨r.metadata, []⟩, nil_sublist sent,
        { metadataWritten := rfl
          maxTimestamp := hunop.maxTimestamp
          fileOffset := by rw [hfile, hoff]
          durationPatchOffset := by rw [hoff]; rfl
          filesizePatchOffset := by rw [hoff]; rfl
          ops := by simp [Account.note, hops, Contents.ops, Contents.pieces, bytes_metadataTag] }⟩ }

theorem appendMetadata_meets (hwrit : r.stats.metadataWritten = false)
    (hops : a.ops = [.append header]) :
    Meets Account.note (Shape sent) (fun a' r' => r'.Active sent a' ∧
        (r'.stats.failed = true ∨ r'.stats.metadataWritten = true) ∧
        r'.finalized = r.finalized)
      a r.appendMetadata := by
  have hunop := h.unopened hwrit
  refine meets_request_bind.mpr fun answer => ?_
  cases answer with
  | error e =>
    have href := h.refused r.started id
      (buildOnmetadataTag r.metadata 0).bytes e (.inl (by simp [hops]))
    exact ⟨href.shape, meets_pure.mpr ⟨href, .inl rfl, rfl⟩⟩
  | ok _ =>
    have hop := h.opened hops hunop
      (r.stats.bytesWritten + (buildOnmetadataTag r.metadata 0).bytes.length)
      (r.stats.tagsWritten + 1)
    exact ⟨hop.shape, meets_pure.mpr ⟨hop, .inr rfl, rfl⟩⟩

theorem ensureMetadataWritten_meets : Meets Account.note (Shape sent)
      (fun a' r' => r'.Active sent a' ∧ (r'.stats.failed = true ∨ r'.stats.metadataWritten = true) ∧
        r'.finalized = r.finalized)
      a r.ensureMetadataWritten := by
  unfold ensureMetadataWritten
  split
  case isTrue hskip => exact meets_pure.mpr ⟨h, (Bool.or_eq_true_iff.mp hskip).symm, rfl⟩
  case isFalse hopen =>
    simp only [Bool.or_eq_true, not_or, Bool.not_eq_true] at hopen
    refine (ensureStarted_meets h hopen.1).bind fun a' r' => ?_
    rintro ⟨hact, hwrit, hsta, hfin⟩
    split
    case isTrue hfail => exact meets_pure.mpr ⟨hact, .inl hfail, hfin⟩
    case isFalse hfine =>
      refine (appendMetadata_meets hact hwrit
        (hsta.resolve_left hfine)).mono fun a'' r'' hpost => ?_
      exact ⟨hpost.1, hpost.2.1, hpost.2.2.trans hfin⟩

/-! ## Media tags -/

theorem Active.dropped (size : ℕ) : (r.drop size).Active sent a :=
  { h with
    body := h.body.imp (fun hunop => { hunop with }) (fun ⟨x, hx, hop⟩ => ⟨x, hx, { hop with }⟩) }

theorem Active.overflowed (data : Bytes) (e : Error)
    (hopen : r.stats.metadataWritten = true) (he : e.code = .resourceExhausted)
    (size : ℕ) : (r.drop size).Active sent (a.note ⟨.append data, .error e⟩) := by
  have hlong : ¬ a.ops.length < 2 := by
    obtain ⟨x, -, hop⟩ := h.contents hopen
    rw [hop.ops]
    exact Nat.not_lt_of_le x.two_le_length_ops
  have hsame : a.note ⟨.append data, .error e⟩ = a := by
    have hcl := h.closed
    simp only [Account.note]
    cases a
    simp_all
  rw [hsame]
  exact h.dropped size

theorem Active.wrote (hopen : r.stats.metadataWritten = true) (tag : Tag)
    (bytesWritten tagsWritten : ℕ) : { r with
      fileOffset := r.fileOffset + tag.bytes.length
      stats := { r.stats with
        bytesWritten, tagsWritten
        maxTimestamp :=
          if r.stats.maxTimestamp < tag.timestamp then tag.timestamp
          else r.stats.maxTimestamp } }.Active (sent ++ [tag])
        (a.note ⟨.append tag.bytes, .ok ()⟩) := by
  obtain ⟨x, hx, hop⟩ := h.contents hopen
  exact
    { failed := h.failed
      closed := h.closed
      late := by simp [Account.note, h.late, h.closed]
      patches := h.patches
      body := .inr ⟨⟨x.metadata, x.tags ++ [tag]⟩, hx.append (List.Sublist.refl [tag]),
        { metadataWritten := hopen
          maxTimestamp := by simp only [Contents.maxTimestamp, foldl_concat, hop.maxTimestamp]
          fileOffset := by
            simp [hop.fileOffset, Contents.file, Contents.pieces]
            omega
          durationPatchOffset := hop.durationPatchOffset
          filesizePatchOffset := hop.filesizePatchOffset
          ops := by simp [Account.note, hop.ops, Contents.ops, Contents.pieces] }⟩ }

theorem writeTag_meets (hopen : r.stats.metadataWritten = true) (tag : Tag) :
    Meets Account.note (Shape (sent ++ [tag])) (fun a' r' => r'.Active (sent ++ [tag]) a' ∧
        r'.stats.metadataWritten = true ∧ r'.finalized = r.finalized)
      a (r.writeTag tag.type tag.payload tag.timestamp) := by
  have hmore : sent.Sublist (sent ++ [tag]) := sublist_append_left _ _
  unfold writeTag
  split
  case isTrue => exact meets_pure.mpr ⟨h.mono hmore, hopen, rfl⟩
  case isFalse =>
    refine meets_request_bind.mpr fun pending => ⟨(h.mono hmore).shape, ?_⟩
    split
    case isTrue => exact meets_pure.mpr ⟨(h.mono hmore).dropped _, hopen, rfl⟩
    case isFalse =>
      refine meets_request_bind.mpr fun answer => ?_
      cases answer with
      | error e =>
        dsimp only
        split
        case isTrue hfull =>
          have hdrop := (h.mono hmore).overflowed tag.bytes e hopen hfull tag.bytes.length
          exact ⟨hdrop.shape, meets_pure.mpr ⟨hdrop, hopen, rfl⟩⟩
        case isFalse hbrok =>
          have href := (h.mono hmore).refused r.started id tag.bytes e (.inr hbrok)
          exact ⟨href.shape, meets_pure.mpr ⟨href, hopen, rfl⟩⟩
      | ok _ =>
        have hwrote := h.wrote hopen tag (r.stats.bytesWritten + tag.bytes.length)
          (r.stats.tagsWritten + 1)
        exact ⟨hwrote.shape, meets_pure.mpr ⟨hwrote, hopen, rfl⟩⟩

end

/-! ## Finalizing -/

/-- A recorder that is about to finalize its sink: the file has its final
shape, or the recording has failed. -/
structure Ready (sent : List Tag) (r : Recorder) (a : Account) : Prop where
  shape : Shape sent { a with closed := true }
  fileOffset : r.fileOffset = (appended a.ops).flatten.length

theorem Active.ready_of_failed (h : r.Active sent a)
    (hfail : r.stats.failed = true) : r.Ready sent a where
  shape := by
    have hbrok : a.failed = true := h.failed.trans hfail
    cases h.shape with
    | unopened hlate hops hpat _ => exact .unopened hlate hops hpat fun _ => hbrok
    | opened x k hk hlate hx hops hpat _ =>
      exact .opened x k hk hlate hx hops hpat fun _ => .inl hbrok
  fileOffset := h.fileOffset_eq

/-- The recorder has asked for some of the patches, and the last one may have
been refused. -/
structure Patching (sent : List Tag) (x : Contents) (k : ℕ) (r : Recorder)
    (a : Account) : Prop where
  few : k ≤ 2
  sublist : x.tags.Sublist sent
  late : a.late = false
  ops : a.ops = x.ops ++ (x.patches.take k).map fun p => .patch p.1 p.2
  patches : a.patches = x.patches.take k ∨ a.failed = true ∧ a.patches = x.patches.take (k + 1)
  closed : a.closed = false
  fileOffset : r.fileOffset = x.file.length

variable {x : Contents} {k offset : ℕ} {data : Bytes}

theorem Patching.shape (h : Patching sent x k r a) : Shape sent a :=
  .opened x k h.few h.late h.sublist h.ops (h.patches.imp_right And.right)
    fun hcl => absurd (h.closed.symm.trans hcl) (by decide)

theorem Patching.ready (h : Patching sent x k r a)
    (hdone : a.failed = true ∨ k = 2) : r.Ready sent a where
  shape := .opened x k h.few h.late h.sublist h.ops (h.patches.imp_right And.right) fun _ => hdone
  fileOffset := by rw [h.ops, h.fileOffset, Contents.ops, appended_appends_patches, Contents.file]

theorem Opened.patching (h : r.Active sent a) (hx : x.tags.Sublist sent) (hop : r.Opened x a) :
    Patching sent x 0 r a :=
  { h with
    few := Nat.zero_le 2
    sublist := hx
    ops := by simp [hop.ops]
    patches := .inl h.patches
    fileOffset := hop.fileOffset }

theorem Patching.accepted (h : Patching sent x k r a) (hasked : a.patches = x.patches.take k)
    (hnext : x.patches.take (k + 1) = x.patches.take k ++ [(offset, data)]) (hk : k < 2) :
    Patching sent x (k + 1) r (a.note ⟨.patch offset data, .ok ()⟩) :=
  { h with
    few := hk
    late := by simp [Account.note, h.late, h.closed]
    ops := by simp [Account.note, h.ops, hnext]
    patches := .inl (by simp [Account.note, hasked, hnext]) }

theorem Patching.refused (h : Patching sent x k r a) (hasked : a.patches = x.patches.take k)
    (hnext : x.patches.take (k + 1) = x.patches.take k ++ [(offset, data)]) (e : Error) :
    Patching sent x k r.markFailed (a.note ⟨.patch offset data, .error e⟩) :=
  { h with
    late := by simp [Account.note, h.late, h.closed]
    patches := .inr ⟨rfl, by simp [Account.note, hasked, hnext]⟩ }

theorem patchValues_meets (h : r.Active sent a) (hx : x.tags.Sublist sent) (hop : r.Opened x a) :
    Meets Account.note (Shape sent) (fun a' r' => r'.Ready sent a' ∧ r'.finalized = r.finalized)
      a (r.patchValues x.durationOffset x.filesizeOffset) := by
  have hdur : encodeDoubleBe (doubleOfRatio r.stats.maxTimestamp.toNat 1000) =
      encodeDoubleBe x.duration := by
    rw [hop.maxTimestamp, Contents.duration]
  have hfilesize : encodeDoubleBe (doubleOfRatio r.fileOffset 1) = encodeDoubleBe x.filesize := by
    rw [hop.fileOffset, Contents.filesize]
  unfold patchValues
  rw [hdur, hfilesize]
  have hstart := Opened.patching h hx hop
  refine meets_request_bind.mpr fun answer => ?_
  cases answer with
  | error e =>
    have href := hstart.refused h.patches rfl e
    exact ⟨href.shape, meets_pure.mpr ⟨href.ready (.inl rfl), rfl⟩⟩
  | ok _ =>
    have hfst := hstart.accepted h.patches rfl (by decide)
    have hasked : (a.note ⟨.patch x.durationOffset
        (encodeDoubleBe x.duration), .ok ()⟩).patches = x.patches.take 1 := by
      simp [Account.note, h.patches, Contents.patches]
    refine ⟨hfst.shape, meets_request_bind.mpr fun answer => ?_⟩
    cases answer with
    | error e =>
      have href := hfst.refused hasked rfl e
      exact ⟨href.shape, meets_pure.mpr ⟨href.ready (.inl rfl), rfl⟩⟩
    | ok _ =>
      have hsnd := hfst.accepted hasked rfl (by decide)
      exact ⟨hsnd.shape, meets_pure.mpr ⟨hsnd.ready (.inr rfl), rfl⟩⟩

theorem patchMetadata_meets (h : r.Active sent a)
    (hwrit : r.stats.failed = true ∨ r.stats.metadataWritten = true) :
    Meets Account.note (Shape sent) (fun a' r' => r'.Ready sent a' ∧ r'.finalized = r.finalized)
      a r.patchMetadata := by
  unfold patchMetadata
  cases hfail : r.stats.failed with
  | true => exact meets_pure.mpr ⟨h.ready_of_failed hfail, rfl⟩
  | false =>
    obtain ⟨x, hx, hop⟩ := h.contents (hwrit.resolve_left (by simp [hfail]))
    rw [hop.durationPatchOffset, hop.filesizePatchOffset]
    exact patchValues_meets h hx hop

/-- The recorder between two methods, before and after its file is finalized. -/
def Kept (sent : List Tag) (r : Recorder) (a : Account) : Prop :=
  (r.finalized = false ∧ r.Active sent a ∧
      (r.started = true → r.stats.failed = true ∨ r.stats.metadataWritten = true)) ∨
    (r.finalized = true ∧ r.Settled sent a)

theorem Kept.active (h : r.Kept sent a) (hfin : r.finalized = false) : r.Active sent a := by
  rcases h with ⟨-, hact, -⟩ | ⟨hf, -⟩
  · exact hact
  · exact absurd (hf ▸ hfin) (by decide)

theorem Kept.mono (h : r.Kept sent a) (hsent : sent.Sublist sent') : r.Kept sent' a :=
  h.imp (fun ⟨hf, hact, hopen⟩ => ⟨hf, hact.mono hsent, hopen⟩) (fun ⟨hf, hset⟩ =>
      ⟨hf, { hset with shape := hset.shape.mono hsent }⟩)

theorem finalizeSink_meets (h : r.Ready sent a) (hfin : r.finalized = true) :
    Meets Account.note (Shape sent) (fun a' r' => r'.Kept sent a') a
      r.finalizeSink := by
  refine meets_request_bind.mpr fun answer => ⟨h.shape, ?_⟩
  cases answer with
  | error | ok => exact meets_pure.mpr (.inr ⟨hfin, h.shape, rfl, h.fileOffset⟩)

theorem finalize_meets (h : r.Kept sent a) :
    Meets Account.note (Shape sent) (fun a' r' => r'.Kept sent a') a
      r.finalize := by
  unfold finalize
  split
  case isTrue => exact meets_pure.mpr h
  case isFalse hopen =>
    have hopened := h.active (by simpa using hopen)
    have hact : { r with finalized := true }.Active sent a :=
      { hopened with
        body := hopened.body.imp (fun hunop => { hunop with })
          (fun ⟨x, hx, hop⟩ => ⟨x, hx, { hop with }⟩) }
    refine (ensureMetadataWritten_meets hact).bind fun a' r' => ?_
    rintro ⟨hact', hwrit, hfin⟩
    refine (patchMetadata_meets hact' hwrit).bind fun a'' r'' hpost => ?_
    exact finalizeSink_meets hpost.1 (hpost.2.trans hfin)

/-! ## The methods and whole recordings -/

theorem onMedia_meets (h : r.Kept sent a) (tagType : UInt8) (msg : RtmpMessage)
    (count : RecorderStats → RecorderStats)
    (hcnt : ∀ stats : RecorderStats, (count stats).failed = stats.failed ∧
      (count stats).maxTimestamp = stats.maxTimestamp ∧
      (count stats).metadataWritten = stats.metadataWritten)
    (tag : Tag)
    (htag : tag = ⟨tagType, msg.timestamp, msg.payload⟩) :
    Meets Account.note (Shape (sent ++ [tag])) (fun a' r' => r'.Kept (sent ++ [tag]) a') a
      (r.onMedia tagType msg count) := by
  have hmore : sent.Sublist (sent ++ [tag]) := sublist_append_left _ _
  unfold onMedia
  split
  case isTrue => exact meets_pure.mpr (h.mono hmore)
  case isFalse hopen =>
    simp only [Bool.or_eq_true, not_or, Bool.not_eq_true] at hopen
    have hact := h.active hopen.1.1
    refine Prog.Meets.bind ((ensureMetadataWritten_meets hact).imp
      (fun _ hshape => hshape.mono hmore) fun _ _ hpost => hpost) ?_
    rintro a' r' ⟨hact', hwrit, hfin⟩
    have hfsh : r'.finalized = false := hfin.trans hopen.1.1
    split
    case isTrue => exact meets_pure.mpr (.inl ⟨hfsh, hact'.mono hmore, fun _ => hwrit⟩)
    case isFalse hfine =>
      subst htag
      refine (writeTag_meets hact' (hwrit.resolve_left hfine) _).bind ?_
      rintro a'' r'' ⟨hactive'', hwritten'', hfinalized''⟩
      obtain ⟨hfail, hmax, hmeta⟩ := hcnt r''.stats
      refine meets_pure.mpr (.inl ⟨hfinalized''.trans hfsh, ?_,
        fun _ => .inr (hmeta.trans hwritten'')⟩)
      exact
        { failed := hactive''.failed.trans hfail.symm
          closed := hactive''.closed
          late := hactive''.late
          patches := hactive''.patches
          body := hactive''.body.imp (fun hunop =>
              { metadataWritten := hmeta.trans hunop.metadataWritten
                maxTimestamp := hmax.trans hunop.maxTimestamp
                written := hfail.symm ▸ hunop.written })
            (fun ⟨x, hx, hop⟩ => ⟨x, hx,
              { hop with
                metadataWritten := hmeta.trans hop.metadataWritten
                maxTimestamp := hmax.trans hop.maxTimestamp }⟩) }

theorem onMetadata_meets (h : r.Kept sent a) (msg : RtmpMessage) :
    Meets Account.note (Shape sent) (fun a' r' => r'.Kept sent a') a (r.onMetadata msg) := by
  unfold onMetadata
  split
  case isTrue => exact meets_pure.mpr h
  case isFalse hopen =>
    simp only [Bool.or_eq_true, not_or, Bool.not_eq_true] at hopen
    obtain ⟨⟨hfin, -⟩, hwrit⟩ := hopen
    have hact := h.active hfin
    have hunop := hact.unopened hwrit
    have hnext : Active sent { r with metadata := extractMetadata msg.payload r.metadata } a :=
      { hact with body := .inl { hunop with } }
    exact (ensureMetadataWritten_meets hnext).mono fun a' r' hpost =>
      .inl ⟨hpost.2.2.trans hfin, hpost.1, fun _ => hpost.2.1⟩

end Recorder

/-- The media tag that a message asks for. -/
def RecorderEvent.tags : RecorderEvent → List Tag
  | .audio message => [⟨kTagTypeAudio, message.timestamp, message.payload⟩]
  | .video message => [⟨kTagTypeVideo, message.timestamp, message.payload⟩]
  | .metadata _ | .finalize => []

namespace Recorder

variable {sent : List Tag} {r : Recorder} {a : Account}

theorem handle_meets (h : r.Kept sent a) (ev : RecorderEvent) :
    Meets Account.note (Shape (sent ++ ev.tags))
      (fun a' r' => r'.Kept (sent ++ ev.tags) a') a (r.handle ev) := by
  cases ev with
  | metadata msg =>
    rw [RecorderEvent.tags, append_nil]
    exact onMetadata_meets h msg
  | audio msg =>
    exact onMedia_meets h kTagTypeAudio msg
      (fun stats => { stats with audioTags := stats.audioTags + 1 })
      (fun _ => ⟨rfl, rfl, rfl⟩) _ rfl
  | video msg =>
    exact onMedia_meets h kTagTypeVideo msg
      (fun stats => { stats with videoTags := stats.videoTags + 1 })
      (fun _ => ⟨rfl, rfl, rfl⟩) _ rfl
  | finalize =>
    rw [RecorderEvent.tags, append_nil]
    exact finalize_meets h

theorem record_meets (h : r.Kept sent a) (evs : List RecorderEvent) :
    Meets Account.note (Shape (sent ++ evs.flatMap RecorderEvent.tags))
      (fun a' r' => r'.Kept (sent ++ evs.flatMap RecorderEvent.tags) a') a
      (r.record evs) := by
  induction evs generalizing sent r a with
  | nil =>
    rw [flatMap_nil, append_nil]
    exact meets_pure.mpr h
  | cons ev rest ih =>
    rw [flatMap_cons, ← append_assoc]
    have hfst := (handle_meets h ev).imp (fun _ hshape => hshape.mono
        (sublist_append_left _ (rest.flatMap RecorderEvent.tags)))
      (fun _ _ hpost => hpost)
    exact hfst.bind fun a' r' hkept => ih hkept

theorem kept_fresh (config : RecorderConfig) : Kept [] { config } {} :=
  .inl ⟨rfl,
    { failed := rfl
      closed := rfl
      late := rfl
      patches := rfl
      body := .inl
        { metadataWritten := rfl, maxTimestamp := rfl, written := .inl ⟨rfl, rfl, nofun⟩ } },
    nofun⟩

theorem Kept.shape (h : r.Kept sent a) : Shape sent a := by
  rcases h with ⟨-, hact, -⟩ | ⟨-, hset⟩
  exacts [hact.shape, hset.shape]

theorem Kept.fileOffset_eq (h : r.Kept sent a) :
    r.fileOffset = (appended a.ops).flatten.length := by
  rcases h with ⟨-, hact, -⟩ | ⟨-, hset⟩
  exacts [hact.fileOffset_eq, hset.fileOffset]

/-- A file without its metadata tag is one that nothing was recorded to, or one
that broke. -/
theorem Kept.failed_of_short (h : r.Kept sent a) (hshort : a.ops.length < 2) :
    a.failed = true ∨ r.started = false := by
  rcases h with ⟨-, hact, hopen⟩ | ⟨-, hset⟩
  · rcases hact.body with hunop | ⟨x, -, hop⟩
    · cases hsta : r.started with
      | false => exact .inr rfl
      | true =>
        have hfail := (hopen hsta).resolve_right (by simp [hunop.metadataWritten])
        exact .inl (hact.failed.trans hfail)
    · rw [hop.ops] at hshort
      exact absurd hshort (Nat.not_lt_of_le x.two_le_length_ops)
  · cases hset.shape with
    | unopened _ _ _ hcl => exact .inl (hcl hset.closed)
    | opened x k _ _ _ hops _ _ =>
      rw [hops, length_append] at hshort
      have hlong := x.two_le_length_ops
      omega

/-- Whatever the sink answers, the accepted bytes are the header, the metadata
tag and accepted media tags in their order, and the offset of the recorder is
their number.  The patches stand at the two values of the metadata tag: the
file after them differs in the metadata only, which decodes to the values with
the new duration and file size.  The parser reads the tags back.

The metadata tag is missing only from a file that nothing was recorded to or
that broke. -/
theorem record_roundTrip (config : RecorderConfig) (events : List RecorderEvent)
    (hsmall : ∀ tag ∈ events.flatMap RecorderEvent.tags, tag.Fits)
    (oracle : List SinkExchange → (c : SinkCall) → c.Answer) :
    let result := (record { config } events).exec oracle []
    let a := account result.1
    let file := (fileOf a.ops).content
    result.2.fileOffset = (appended a.ops).flatten.length ∧
      (((a.ops = [] ∨ a.ops = [.append header]) ∧ a.patches = [] ∧
          (a.failed = true ∨ result.2.started = false)) ∨
        ∃ (x : Contents) (k : ℕ), k ≤ 2 ∧ x.tags.Sublist (events.flatMap RecorderEvent.tags) ∧
          appended a.ops = header :: (metadataTag x.metadata).bytes :: x.tags.map Tag.bytes ∧
          a.ops = x.ops ++ ((x.patches.take k).map fun p => .patch p.1 p.2) ∧
          a.patches <+: x.patches ∧
          file = (x.patched k).file ∧
          Amf0.decodeAll (metadataTag (x.patched k).metadata).payload =
            .ok (x.patched k).metadata.values ∧
          ∃ parsed, parseFlv file = .ok parsed ∧ parsed.tags.map (ParsedTag.read file) =
              metadataTag (x.patched k).metadata :: x.tags) := by
  intro result a file
  have hkept : result.2.Kept ([] ++ events.flatMap RecorderEvent.tags) a :=
    (record_meets (kept_fresh config) events).exec oracle
  refine ⟨hkept.fileOffset_eq, ?_⟩
  cases hkept.shape with
  | unopened _ hops hpatches _ =>
    have hshort : a.ops.length < 2 := by
      rcases hops with hops | hops <;> simp [hops]
    exact .inl ⟨hops, hpatches, hkept.failed_of_short hshort⟩
  | opened x k hk _ hsent hops hpatches _ =>
    have hfile : file = (x.patched k).file := by
      dsimp only [file]
      rw [hops, content_fileOf_patches hk]
    have htags : (x.patched k).tags = x.tags := x.tags_patched k
    have hparsed := parseFlv_file (x := x.patched k)
      (fun tag htag => hsmall tag (hsent.subset (htags ▸ htag)))
    rw [← hfile, htags] at hparsed
    refine .inr ⟨x, k, hk, hsent, ?_, hops, ?_, hfile, decodeAll_onmetadataBody _, hparsed⟩
    · rw [hops, Contents.ops, appended_appends_patches]
      rfl
    · rcases hpatches with hpatches | hpatches
      all_goals
        rw [hpatches]
        exact take_prefix _ _

/-- A sink that refuses the second media tag for want of room. -/
def refusesOnce (trace : List SinkExchange) : (c : SinkCall) → c.Answer
  | .pendingBytes => 0
  | .append _ =>
    if (account trace).ops.length = 3 then
      .error { code := .resourceExhausted, category := .storage, message := "" }
    else .ok ()
  | .patch _ _ | .finalize => .ok ()

def twoMessages : List RecorderEvent :=
  [.audio { timestamp := 0x1000020, payload := [0xAF, 0x01] },
    .video { timestamp := 7, payload := [0x17] }, .finalize]

theorem record_roundTrip_twoMessages : (∀ tag ∈ twoMessages.flatMap RecorderEvent.tags, tag.Fits) ∧
      ((record {} twoMessages).exec refusesOnce []).2.fileOffset = 265 ∧
      (appended (account ((record {} twoMessages).exec refusesOnce
        []).1).ops).flatten.length = 265 := by
  have hsmall : ∀ tag ∈ twoMessages.flatMap RecorderEvent.tags, tag.Fits := by decide
  have hoffset : ((record {} twoMessages).exec refusesOnce []).2.fileOffset = 265 := by
    decide +kernel
  have h := record_roundTrip {} twoMessages hsmall refusesOnce
  exact ⟨hsmall, hoffset, h.1.symm.trans hoffset⟩

end Recorder

end RtmpCore.Recording
