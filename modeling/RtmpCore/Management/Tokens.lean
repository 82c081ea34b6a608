import RtmpCore.Management.StreamManager

/-!
# Which streams a playback token opens

A token signs the application, the name and the time of expiry, joined with
colons.  Names may hold colons too, so two streams can have one signing input:
the application of one goes on where the application of the other ends.
-/

namespace RtmpCore.Management

open RtmpCore.Core Hls Http List AList Option

def colon : UInt8 := 0x3A

theorem colon_notMem_intText (n : ℤ) : colon ∉ intText n := by
  have hdigs : colon ∉ decimalText n.natAbs := by
    intro hmem
    have hdigit := isDigit_of_mem_decimalText hmem
    revert hdigit
    decide
  unfold intText
  split
  · rw [mem_cons, not_or]
    exact ⟨by decide, hdigs⟩
  · exact hdigs

variable (first second : Bytes × Bytes)

/-- The application of the second stream goes on where the first one's ends, and
the name of the first one holds the rest. -/
def RunsOn : Prop := ∃ mid, second.1 = first.1 ++ colon :: mid ∧ first.2 = mid ++ colon :: second.2

/-- Two streams whose application and name read alike when they are joined. -/
def Confusable : Prop := RunsOn first second ∨ RunsOn second first

theorem joined_eq_iff : first.1 ++ colon :: first.2 = second.1 ++ colon :: second.2 ↔
      first = second ∨ Confusable first second := by
  constructor
  · intro h
    rcases append_eq_append_iff.mp h with ⟨mid, hfront, hrest⟩ | ⟨mid, hfront, hrest⟩
    · cases mid with
      | nil =>
        rw [append_nil] at hfront
        exact .inl (Prod.ext hfront.symm (List.cons.inj hrest).2)
      | cons b mid =>
        obtain ⟨hb, hname⟩ := List.cons.inj hrest
        exact .inr (.inl ⟨mid, hb ▸ hfront, hname⟩)
    · cases mid with
      | nil =>
        rw [append_nil] at hfront
        exact .inl (Prod.ext hfront (List.cons.inj hrest).2.symm)
      | cons b mid =>
        obtain ⟨hb, hname⟩ := List.cons.inj hrest
        exact .inr (.inr ⟨mid, hb ▸ hfront, hname⟩)
  · rintro (h | ⟨mid, hfront, hname⟩ | ⟨mid, hfront, hname⟩)
    · rw [h]
    · rw [hfront, hname, append_assoc, cons_append]
    · rw [hfront, hname, append_assoc, cons_append]

theorem signingInput_eq (app name : Bytes) (expiresAt : ℤ) : signingInput app name expiresAt =
      (app ++ colon :: name) ++ colon :: intText expiresAt := by
  simp [signingInput, colon]

theorem joined_eq_of_signingInput_eq {first second : Bytes × Bytes} {expiresAt expiresAt' : ℤ}
    (h : signingInput first.1 first.2 expiresAt = signingInput second.1 second.2 expiresAt') :
    first.1 ++ colon :: first.2 = second.1 ++ colon :: second.2 := by
  -- the time of expiry has no colon, so the texts part at the same place
  rcases (joined_eq_iff (_, intText expiresAt) (_, intText expiresAt')).mp h with
    hsame | ⟨mid, -, hname⟩ | ⟨mid, -, hname⟩
  · exact congrArg Prod.fst hsame
  · refine (colon_notMem_intText expiresAt ?_).elim
    rw [show intText expiresAt = _ from hname]
    simp
  · refine (colon_notMem_intText expiresAt' ?_).elim
    rw [show intText expiresAt' = _ from hname]
    simp

namespace StreamManager

/-! ## Any name can be created -/

variable {m : StreamManager} {stream : Bytes × Bytes}

theorem lists_iff : m.Lists stream ↔ ∃ record, m.applications.lookup stream.1 = some record ∧
      stream.2 ∈ record.streams := by
  unfold Lists findStream
  cases m.applications.lookup stream.1 with
  | none => simp
  | some record =>
    rw [bind_some, lookup_isSome]
    exact ⟨fun h => ⟨record, rfl, h⟩, fun ⟨_, hrec, h⟩ => Option.some.inj hrec ▸ h⟩

theorem Lists.createApplication (h : m.Lists stream) (name : Bytes) :
    (m.perform (.createApplication name)).Lists stream := by
  unfold perform attempt StreamManager.createApplication
  dsimp only
  split
  · exact h
  next hnew =>
    obtain ⟨record, hrec, hname⟩ := lists_iff.mp h
    have hne : stream.1 ≠ name := by
      rintro rfl
      exact hnew (lookup_isSome.mp (by rw [hrec]; rfl))
    refine lists_iff.mpr ⟨record, ?_, hname⟩
    exact (lookup_insert_ne hne).trans hrec

theorem Lists.createStream (h : m.Lists stream) (app name keyHash : Bytes) (recordingEnabled : Bool)
    (createdAt : ℤ) :
    (m.perform (.createStream app name keyHash recordingEnabled createdAt)).Lists stream := by
  unfold perform attempt StreamManager.createStream
  dsimp only
  split
  · exact h
  next found hfound =>
    split
    · exact h
    · obtain ⟨record, hrec, hname⟩ := lists_iff.mp h
      by_cases heq : stream.1 = app
      · subst heq
        rw [hrec] at hfound
        obtain rfl := Option.some.inj hfound
        refine lists_iff.mpr ⟨_, lookup_insert _, ?_⟩
        exact (mem_insert _).mpr (.inr hname)
      · refine lists_iff.mpr ⟨record, ?_, hname⟩
        exact (lookup_insert_ne heq).trans hrec

theorem mem_createApplication (m : StreamManager) (name : Bytes) :
    name ∈ (m.perform (.createApplication name)).applications := by
  unfold perform attempt StreamManager.createApplication
  dsimp only
  split
  · assumption
  · exact (mem_insert _).mpr (.inl rfl)

theorem lists_createStream {app : Bytes} (happ : app ∈ m.applications) (name keyHash : Bytes)
    (recordingEnabled : Bool) (createdAt : ℤ) :
    (m.perform (.createStream app name keyHash recordingEnabled createdAt)).Lists (app, name) := by
  obtain ⟨record, hrec⟩ := isSome_iff_exists.mp (lookup_isSome.mpr happ)
  unfold perform attempt StreamManager.createStream
  dsimp only
  rw [hrec]
  dsimp only
  split
  next htaken => exact lists_iff.mpr ⟨record, hrec, htaken⟩
  · exact lists_iff.mpr ⟨_, lookup_insert _, (mem_insert _).mpr (.inl rfl)⟩

/-- The operations that create two streams. -/
def creating (first second : Bytes × Bytes) : List Operation :=
  [.createApplication first.1, .createStream first.1 first.2 [] false 0,
    .createApplication second.1, .createStream second.1 second.2 [] false 0]

theorem lists_creating (m : StreamManager) (first second : Bytes × Bytes) :
    (Run.run perform m (creating first second)).Lists first ∧
      (Run.run perform m (creating first second)).Lists second := by
  have hfst := lists_createStream (m.mem_createApplication first.1) first.2 [] false 0
  constructor
  · exact (hfst.createApplication second.1).createStream second.1 second.2 [] false 0
  · exact lists_createStream (mem_createApplication _ second.1) second.2 [] false 0

end StreamManager

/-! ## One stream for one token -/

/-- Two different streams of any names can be created, and no token of the first
opens the second, whatever the times, exactly if their names cannot be confused
when they are joined with a colon. -/
theorem token_refused_iff {hmac : List UInt8 → List UInt8 → List UInt8}
    (hinjective : ∀ secret, Function.Injective (hmac secret)) (m : StreamManager)
    {first second : List UInt8 × List UInt8} (hne : first ≠ second) :
    (∃ operations : List StreamManager.Operation,
        (Run.run StreamManager.perform m operations).Lists first ∧
          (Run.run StreamManager.perform m operations).Lists second) ∧
      ((∀ expiresAt presented now : ℤ, checkToken hmac m.tokenSigningSecret second.1 second.2
            (m.signPlaybackToken hmac first.1 first.2 expiresAt) presented now ≠ .ok ()) ↔
        ¬ Confusable first second) := by
  refine ⟨⟨_, m.lists_creating first second⟩, ?_, ?_⟩
  · intro hrefused hconfusable
    -- the same time of expiry makes the signing inputs alike
    refine hrefused 0 0 0 (checkToken_eq_ok.mpr ⟨?_, le_rfl⟩)
    have hjoined := (joined_eq_iff first second).mpr (.inr hconfusable)
    unfold StreamManager.signPlaybackToken signToken
    rw [signingInput_eq, signingInput_eq, hjoined]
  · intro hclear expiresAt presented now haccepted
    have hsigned := (checkToken_eq_ok.mp haccepted).1
    have hjoined := joined_eq_of_signingInput_eq (hinjective _ hsigned.symm)
    exact ((joined_eq_iff first second).mp hjoined).elim hne hclear

/-- An injective function in the place of the keyed hash. -/
def plainHmac (secret input : Bytes) : Bytes := secret ++ input

theorem plainHmac_injective (secret : Bytes) : Function.Injective (plainHmac secret) :=
  fun _ _ h => append_cancel_left h

theorem token_refused_plain : checkToken plainHmac [] "live" "b"
      (StreamManager.signPlaybackToken plainHmac {} "live" "a"
        1000) 1000 0 ≠ .ok () := by
  have hne : (textBytes "live", textBytes "a") ≠ (textBytes "live", textBytes "b") := by decide
  refine (token_refused_iff plainHmac_injective {} hne).2.mpr ?_ 1000 1000 0
  rintro (⟨mid, happlication, -⟩ | ⟨mid, happlication, -⟩)
  · simpa using congrArg List.length happlication
  · simpa using congrArg List.length happlication

/-- The token of the stream `b:c` of the application `a` opens the stream `c` of
the application `a:b`. -/
theorem token_opens_two :
    let m := Run.run StreamManager.perform {}
      (StreamManager.creating (textBytes "a", "b:c")
        (textBytes "a:b", "c"))
    (∀ secret, Function.Injective (plainHmac secret)) ∧ m.Lists (textBytes "a", "b:c") ∧
      checkToken plainHmac m.tokenSigningSecret "a:b" "c"
        (m.signPlaybackToken plainHmac "a" "b:c" 1000)
          1000 0 = .ok () ∧
      m.verifyPlaybackToken plainHmac "a:b" "c"
        (m.signPlaybackToken plainHmac "a" "b:c" 1000)
          1000 0 = .ok () := by
  refine ⟨plainHmac_injective, ?_, ?_, ?_⟩
  · exact (StreamManager.lists_creating _ _ _).1
  · rfl
  · rfl

end RtmpCore.Management
