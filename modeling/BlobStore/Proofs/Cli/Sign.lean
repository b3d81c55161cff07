import BlobStore.Cli.Sign
import BlobStore.Duration.Reading
import BlobStore.Proofs.Cli.Opening
import BlobStore.Proofs.Memory.Signed
import Mathlib.Data.Int.Init

/-!
# How long signed URLs are valid

A URL is signed for any time that is longer than none and no longer than a week. It tells the whole
seconds of that time, so one that is signed for less than a second tells that it is valid for none.
-/

namespace BlobStore

namespace Duration

/-- The times that a URL can be signed for. -/
def IsSignable (d : Duration) : Prop := 0 < d.nanos ∧ d.nanos ≤ (ofSeconds maxSignedSeconds).nanos

instance (d : Duration) : Decidable d.IsSignable :=
  inferInstanceAs (Decidable (_ ∧ _))

private theorem wholeSeconds_ofSeconds (n : Nat) : (ofSeconds n).wholeSeconds = n := by
  have hnanos : ((n : Int) * perSecond).toNat = n * perSecond := by
    rw [← Int.natCast_mul, Int.toNat_natCast]
  rw [wholeSeconds, ofSeconds, hnanos]
  exact Nat.mul_div_cancel n (by decide)

private theorem isSignable_ofSeconds (n : Nat) :
    (ofSeconds n).IsSignable ↔ 1 ≤ n ∧ n ≤ maxSignedSeconds := by
  have hsecond : 0 < perSecond := by decide
  simp only [IsSignable, ofSeconds, ← Int.natCast_mul, Int.natCast_pos, Int.ofNat_le,
    Nat.mul_le_mul_right_iff hsecond]
  exact and_congr_left' (Nat.mul_pos_iff_of_pos_right hsecond)

private theorem wholeSeconds_eq_zero {d : Duration} : d.wholeSeconds = 0 ↔ d.nanos < perSecond := by
  rw [wholeSeconds, Nat.div_eq_zero_iff_lt (by decide), Int.toNat_lt_of_ne_zero (by decide)]

private theorem IsSignable.wholeSeconds_le {d : Duration} (h : d.IsSignable) :
    d.wholeSeconds ≤ maxSignedSeconds := by
  have hle : d.nanos.toNat ≤ perSecond * maxSignedSeconds := by
    rw [Int.toNat_le, Int.natCast_mul, Int.mul_comm]
    exact h.2
  exact Nat.div_le_of_le_mul hle

end Duration

namespace Bucket

variable {σ : Type} {b : Bucket σ} {key : String} {expiry : Duration}

private theorem signedUrl_of_signable (h : expiry.IsSignable) (s : σ) :
    b.signedUrl key expiry s = b.request (.presign (.whole (b.address key)) expiry) s := by
  have hasked : ¬(expiry.isZero ∨ expiry.isNegative ∨
      (Duration.ofSeconds maxSignedSeconds).nanos < expiry.nanos) := by
    obtain ⟨hpositive, hle⟩ := h
    simp only [Duration.isZero, Duration.isNegative, decide_eq_true_eq]
    omega
  exact congrFun (if_neg hasked) s

private theorem signedUrl_of_not_signable (h : ¬expiry.IsSignable) (s : σ) :
    b.signedUrl key expiry s = (.error (.invalidArgument .expiryOutOfRange), s) := by
  have hrefused : expiry.isZero ∨ expiry.isNegative ∨
      (Duration.ofSeconds maxSignedSeconds).nanos < expiry.nanos := by
    simp only [Duration.isZero, Duration.isNegative, decide_eq_true_eq]
    rw [Duration.IsSignable] at h
    omega
  exact congrFun (if_pos hrefused) s

private theorem granted_of_signedUrl {s t : σ} {url : String}
    (h : b.signedUrl key expiry s = (.ok url, t)) :
    expiry.IsSignable ∧ b.serve (.presign (.whole (b.address key)) expiry) s = (.ok url, t) := by
  by_cases hsignable : expiry.IsSignable
  · rw [signedUrl_of_signable hsignable] at h
    refine ⟨hsignable, ?_⟩
    rcases hserve : b.serve (.presign (.whole (b.address key)) expiry) s with ⟨why | answer, u⟩
    · rw [request_of_refused hserve] at h
      cases h
    · rw [request_of_granted hserve] at h
      cases h
      rfl
  · rw [signedUrl_of_not_signable hsignable] at h
    cases h

private theorem signedUrl_memory (name key : String) (expiry : Duration) (m : Memory) :
    let result := (signedUrl ⟨name, Memory.serve⟩ key expiry m).1
    (expiry.IsSignable ∧ ∃ url, result = .ok url ∧ lifetimes url = [some expiry.wholeSeconds]) ∨
      ¬expiry.IsSignable ∧ result = .error (.invalidArgument .expiryOutOfRange) := by
  dsimp only
  by_cases h : expiry.IsSignable
  · rw [signedUrl_of_signable h]
    exact .inl ⟨h, _, rfl, Memory.lifetimes_presign _ expiry⟩
  · rw [signedUrl_of_not_signable h]
    exact .inr ⟨h, rfl⟩

end Bucket

namespace Cli.Sign

variable {plan : Mishaps} {host : Host} {style : Style} {path : String} {expiry : Duration}
  {d d' d'' : Desk (Fleet (Noted Memory))} {target : Target}
  {bucket : Bucket (Desk (Fleet (Noted Memory)))} {url : String}

private theorem accept_checkExpiry (h : expiry.IsSignable) :
    (Step.accept style "Invalid expiry" (checkExpiry expiry) : Step (Fleet (Noted Memory)) Unit) d =
      (.ok (), d) := by
  have hpositive : expiry.isNegative = false := decide_eq_false (Int.not_lt.mpr (Int.le_of_lt h.1))
  rw [checkExpiry, hpositive]
  rfl

private theorem execute_of_signed
    (hresolve : resolveObject (setting plan host) style path d = (.ok (target, bucket), d'))
    (hsigned : bucket.signedUrl target.key expiry d' = (.ok url, d'')) :
    execute (setting plan host) style path expiry d =
      (.ok .success, { d'' with terminal := report style url expiry d''.terminal }) := by
  unfold execute
  rw [bind_of_ok (accept_checkExpiry (Bucket.granted_of_signedUrl hsigned).1), bind_of_ok hresolve]
  exact bind_of_ok (attempt_of_ok _ hsigned) _

private theorem run_ne_success {step : Step (Fleet (Noted Memory)) ExitStatus}
    {status : ExitStatus} (h : step d = (.error (.exited status), d')) (hne : status ≠ .success) :
    (step.run d).1 ≠ .exited .success := by
  rw [Step.run, h]
  exact fun heq => hne (Outcome.exited.inj heq)

/-- A command that ends well has found the bucket of an object and has signed a URL for it. -/
theorem execute_success
    (h : ((execute (setting plan host) style path expiry).run d).1 = .exited .success) :
    ∃ target location url d', Target.parse path = .ok target ∧ target.key.isEmpty = false ∧
      locate d.config target = .ok location ∧
      (deskBucket (bucketOf plan location.bucket)).signedUrl target.key expiry
        (extended d location.bucket ⟨(recordOf d.services location.bucket).state, []⟩) = (.ok url, d') := by
  by_contra hnone
  refine absurd h ?_
  cases hcheck : checkExpiry expiry with
  | error e =>
    have hfail : (Step.accept style "Invalid expiry" (checkExpiry expiry) :
        Step (Fleet (Noted Memory)) Unit) d = Step.fail style "Invalid expiry" e d := by
      rw [hcheck]
      rfl
    exact run_ne_success (bind_of_error hfail _) (exitStatus_ne_success e)
  | ok =>
    have haccept : (Step.accept style "Invalid expiry" (checkExpiry expiry) :
        Step (Fleet (Noted Memory)) Unit) d = (.ok (), d) := by
      rw [hcheck]
      rfl
    rcases resolveObject_cases _ host style d path with ⟨status, d', hstop, hne, -⟩ |
      ⟨target, location, hparse, hkey, hlocate, hresolve⟩
    · exact run_ne_success ((bind_of_ok haccept _).trans (bind_of_error hstop _)) hne
    · rcases hsigned : (deskBucket (bucketOf plan location.bucket)).signedUrl target.key expiry
        (extended d location.bucket ⟨(recordOf d.services location.bucket).state, []⟩) with ⟨e | url, d'⟩
      · exact run_ne_success ((bind_of_ok haccept _).trans ((bind_of_ok hresolve _).trans
          (bind_of_error (attempt_of_error _ hsigned) _))) (exitStatus_ne_success e)
      · exact absurd ⟨target, location, url, d', hparse, hkey, hlocate, hsigned⟩ hnone

theorem terminal_execute
    (h : ((execute (setting plan host) style path expiry).run d).1 = .exited .success) :
    expiry.IsSignable ∧ ∃ url,
      ((execute (setting plan host) style path expiry).run d).2.terminal =
        report style url expiry d.terminal ∧
      lifetimes url = [some expiry.wholeSeconds] := by
  obtain ⟨target, location, url, d', hparse, hkey, hlocate, hsigned⟩ := execute_success h
  obtain ⟨hsignable, hserve⟩ := Bucket.granted_of_signedUrl hsigned
  rw [Step.run, execute_of_signed (resolveObject_eq plan host hparse hkey hlocate) hsigned]
  obtain ⟨answer, m, hask, hm⟩ := serve_bucketOf plan location.bucket
    (r := .presign (.whole ⟨location.bucket, target.key⟩) expiry) (fun _ _ h => by cases h)
    (extended d location.bucket ⟨(recordOf d.services location.bucket).state, []⟩)
  obtain ⟨rfl, rfl⟩ := Prod.mk.inj (hask.symm.trans hserve)
  refine ⟨hsignable, url, rfl, ?_⟩
  rcases hm with ⟨why, hwhy, -⟩ | hgranted
  · cases hwhy
  · obtain rfl := Except.ok.inj (congrArg Prod.fst hgranted)
    exact Memory.lifetimes_presign _ expiry

private theorem execute_granted {target : Target} {location : Location}
    (hsignable : expiry.IsSignable)
    (hparse : Target.parse path = .ok target) (hkey : target.key.isEmpty = false)
    (hlocate : locate d.config target = .ok location)
    (hplan : plan.answer? (recordOf d.services location.bucket).events
      (.presign (.whole ⟨location.bucket, target.key⟩) expiry) = none) :
    ((execute (setting plan host) style path expiry).run d).1 = .exited .success := by
  let opened := extended d location.bucket ⟨(recordOf d.services location.bucket).state, []⟩
  have hopened : recordOf opened.services location.bucket = recordOf d.services location.bucket :=
    recordOf_opened location.bucket location.bucket
  obtain ⟨d', hserve⟩ : ∃ d', (deskBucket (bucketOf plan location.bucket)).serve
      (.presign (.whole ⟨location.bucket, target.key⟩) expiry) opened =
        (.ok (Memory.presign (.whole ⟨location.bucket, target.key⟩) expiry), d') := by
    rw [deskBucket_serve, hopened, Service.noted, hplan]
    exact ⟨_, rfl⟩
  have hsigned := (Bucket.signedUrl_of_signable hsignable opened).trans (Bucket.request_of_granted hserve)
  rw [Step.run, execute_of_signed (resolveObject_eq plan host hparse hkey hlocate) hsigned]

/-- A URL can be signed for every whole number of seconds up to a week. It tells the whole seconds of
the time that it was signed for, and so does what the command reports: they are no more than a week,
and they are none just if that time is shorter than a second. -/
theorem execute_lifetimes (expiry : Duration) :
    (expiry.IsSignable → expiry.wholeSeconds ≤ maxSignedSeconds ∧
      (expiry.wholeSeconds = 0 ↔ expiry.nanos < Duration.perSecond)) ∧
    (∀ n : Nat, expiry = .ofSeconds n → expiry.wholeSeconds = n ∧
      (expiry.IsSignable ↔ 1 ≤ n ∧ n ≤ maxSignedSeconds)) ∧
    (∀ (name key : String) (m : Memory),
      let result := (Bucket.signedUrl ⟨name, Memory.serve⟩ key expiry m).1
      (expiry.IsSignable ∧ ∃ url, result = .ok url ∧ lifetimes url = [some expiry.wholeSeconds]) ∨
        ¬expiry.IsSignable ∧ result = .error (.invalidArgument .expiryOutOfRange)) ∧
    ∀ (plan : Mishaps) (host : Host) (style : Style) (path : String) (d : Desk (Fleet (Noted Memory))),
      let out := (execute (setting plan host) style path expiry).run d
      (out.1 = .exited .success → expiry.IsSignable ∧ ∃ url,
        out.2.terminal = report style url expiry d.terminal ∧
          lifetimes url = [some expiry.wholeSeconds]) ∧
      ∀ target location, Target.parse path = .ok target → target.key.isEmpty = false →
        locate d.config target = .ok location →
        plan.answer? (recordOf d.services location.bucket).events
          (.presign (.whole ⟨location.bucket, target.key⟩) expiry) = none →
        expiry.IsSignable → out.1 = .exited .success := by
  refine ⟨fun h => ⟨h.wholeSeconds_le, Duration.wholeSeconds_eq_zero⟩, ?_, ?_, ?_⟩
  · rintro n rfl
    exact ⟨Duration.wholeSeconds_ofSeconds n, Duration.isSignable_ofSeconds n⟩
  · exact fun name key m => Bucket.signedUrl_memory name key expiry m
  · intro plan host style path d
    refine ⟨terminal_execute, ?_⟩
    intro target location hparse hkey hlocate hplan hsignable
    exact execute_granted hsignable hparse hkey hlocate hplan

/-- A week is the longest time. -/
theorem execute_lifetimes_week :
    let expiry := Duration.ofSeconds maxSignedSeconds
    let s := setting .none .bare
    let d : Desk (Fleet (Noted Memory)) := ⟨.absent, ∅, .blank⟩
    ((execute s .plain "s3://b/k" expiry).run d).1 = .exited .success ∧ expiry.wholeSeconds = 604800 := by
  intro expiry s d
  obtain ⟨-, hwhole, -, hexecute⟩ := execute_lifetimes expiry
  obtain ⟨hseconds, hsignable⟩ := hwhole maxSignedSeconds rfl
  have hrun := (hexecute .none .bare .plain "s3://b/k" d).2
    (.url "s3://b" "k") ⟨"b", none, none, false, false⟩
  exact ⟨hrun (by decide +kernel) (by decide +kernel) (by decide +kernel) rfl
    (hsignable.mpr ⟨by decide, le_refl _⟩), hseconds⟩

/-- The command signs a URL for half a second, and reports that it is valid for none. -/
theorem execute_lifetimes_half_second :
    let expiry : Duration := ⟨500000000⟩
    let style : Style := { Style.plain with json := true }
    let s := setting .none .bare
    let d : Desk (Fleet (Noted Memory)) := ⟨.absent, ∅, .blank⟩
    let out := (execute s style "s3://b/k" expiry).run d
    Duration.read? "500ms" = some expiry ∧ out.1 = .exited .success ∧ out.2.terminal =
      Terminal.blank.document (.object [("url", .string "https://b.s3.memory/k?X-Amz-Expires=0"),
        ("expires_secs", .number 0)]) := by
  decide +kernel

end Cli.Sign

end BlobStore
