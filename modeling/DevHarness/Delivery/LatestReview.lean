import DevHarness.Delivery.OperationKeys

/-!
# Which review lets a commit through

Reviews are only ever added.  A delivery looks for an approved review among all
reviews of the candidate's run and commit, so an approval stands whatever is
recorded after it, and landing relies on the review that the delivery found.
The most recent review therefore governs delivery only where no review of the
run and the commit has another verdict.
-/

namespace DevHarness.Delivery

open JsText Interleave

def ReviewRecord.isOf (review : ReviewRecord) (row : CandidateRow) : Bool :=
  decide (review.organizationId = row.organizationId) &&
    decide (review.projectId = row.projectId) && decide (review.issueId = row.issueId) &&
    decide (review.runId = row.runId) && decide (row.commitSha = some review.targetCommitSha)

/-- The reviews of the run and the commit of candidate `id`, in the order in which they
were recorded. -/
def reviewsOf (id : JsString) (store : DeliveryStore) : List ReviewRecord :=
  match store.candidates id with
  | none => []
  | some row => store.reviews.filter fun review => review.isOf row

def latestReview (id : JsString) (store : DeliveryStore) : Option ReviewRecord :=
  (reviewsOf id store).getLast?

/-- The most recent review of the candidate is an approval. -/
def LatestApproves (id : JsString) (store : DeliveryStore) : Prop :=
  ∃ review, latestReview id store = some review ∧ review.verdict = .approved

/-- Some review of the candidate is an approval. -/
def SomeApproves (id : JsString) (store : DeliveryStore) : Prop :=
  ∃ review ∈ reviewsOf id store, review.verdict = .approved

def DeliveryCommand.isEffect : DeliveryCommand → Bool
  | .pushBranch _ => true
  | .openPullRequest _ => true
  | .mergePullRequest _ => true
  | _ => false

/-- The review that a command relies on has been found: by the same call before a push or
a pull request, by some call before a merge. -/
def ReviewLookedUp (id : JsString) (pid : ℕ) (m : DeliveryMoment) : DeliveryCommand → Prop
  | .mergePullRequest _ => ∃ pid', ReviewFound id pid' m
  | _ => ReviewFound id pid m

/-- Each effect for candidate `id` happens in a call during which the most recent review
was an approval. -/
def LatestGoverns (store : DeliveryStore) (id : JsString) : Prop :=
  ∀ {c c' pid call command resp}, Reached deliverySystem store c → DeliveryStep c c' →
    .spawned pid call ∈ c.now.past → call.candidateId = id → command.isEffect = true →
    c'.now.past = .performed pid command resp :: c.now.past →
    ∃ d, Reached deliverySystem store d ∧ Relation.ReflTransGen DeliveryStep d c ∧
      .spawned pid call ∈ d.now.past ∧ LatestApproves id d.now.state

/-- Each effect for candidate `id` happens while an approval of its run and commit is on
record, which has been looked up; it is the most recent review unless a review with
another verdict is on record. -/
def ApprovalGoverns (store : DeliveryStore) (id : JsString) : Prop :=
  ∀ {c c' pid call command resp}, Reached deliverySystem store c → DeliveryStep c c' →
    .spawned pid call ∈ c.now.past → call.candidateId = id → command.isEffect = true →
    c'.now.past = .performed pid command resp :: c.now.past →
    SomeApproves id c.now.state ∧ ReviewLookedUp id pid c.now command ∧
      (LatestApproves id c.now.state ∨
        ∃ review ∈ reviewsOf id c.now.state, review.verdict ≠ .approved)

section Reviews

variable {store store' : DeliveryStore} {c c' : DeliveryConfig}
  {review : ReviewRecord}

theorem reviews_of_execDelivery {command : DeliveryCommand} {outside : Outside}
    {resp : Except String command.Answer}
    (hexec : execDelivery outside command store = (resp, store')) :
    store'.reviews = store.reviews := by
  unfold execDelivery at hexec
  split at hexec
  · rw [(Prod.mk.inj hexec).2]
  · split at hexec
    case h_4 input =>
      rcases transition_cases hexec with ⟨_, _, _, h⟩ | ⟨_, _, h⟩ | ⟨_, _, _, _, _, _, _, _, h⟩
      · rw [h]
      · rw [h]
      · rw [h]
        rfl
    case h_5 candidateId key =>
      rcases rememberOperation_cases hexec with ⟨_, _, _, h⟩ | ⟨_, _, h⟩ | ⟨_, _, _, _, h⟩
      all_goals rw [h]
    all_goals rw [(Prod.mk.inj hexec).2]

/-- The reviews after the events of `past`. -/
def reviewsAfter (store : DeliveryStore) (past : List DeliveryEvent) : List ReviewRecord :=
  (past.foldr (fun e s => match e with
    | .changed review => saveReview s review
    | _ => s) store).reviews

theorem reviews_saveReview_congr (h : store.reviews = store'.reviews) :
    (saveReview store review).reviews = (saveReview store' review).reviews := by
  simp only [saveReview, h]
  split
  · exact h
  · rfl

theorem reviews_subset_saveReview : store.reviews ⊆ (saveReview store review).reviews := by
  unfold saveReview
  split
  · exact List.Subset.refl _
  · exact List.subset_append_left _ _

theorem reviews_of_reached (hrun : Reached deliverySystem store c) :
    c.now.state.reviews = reviewsAfter store c.now.past := by
  induction hrun with
  | refl => rfl
  | tail _ hstep ih =>
      cases hstep with
      | spawn call hcond => exact ih
      | perform pid command next outside resp state hproc hcond hexec =>
          have hkeep := reviews_of_execDelivery (Option.some.inj hexec)
          exact hkeep.trans ih
      | finish pid result hproc hcond => exact ih
      | crash pid p hproc hcond => exact ih
      | change review state hcond henv =>
          obtain rfl := Option.some.inj henv
          exact reviews_saveReview_congr ih

theorem reviews_subset_of_step (hstep : DeliveryStep c c') :
    c.now.state.reviews ⊆ c'.now.state.reviews := by
  cases hstep with
  | spawn call hcond => exact List.Subset.refl _
  | perform pid command next outside resp state hproc hcond hexec =>
      have hkeep := reviews_of_execDelivery (Option.some.inj hexec)
      intro review hreview
      rw [Moment.push_state, hkeep]
      exact hreview
  | finish pid result hproc hcond => exact List.Subset.refl _
  | crash pid p hproc hcond => exact List.Subset.refl _
  | change review state hcond henv =>
      obtain rfl := Option.some.inj henv
      exact reviews_subset_saveReview

theorem mem_reviews_of_found {pid : ℕ} {query : ReviewQuery}
    (hrun : Reached deliverySystem store c)
    (hfound : .performed pid (.findApprovedReview query) (.ok (some review)) ∈ c.now.past) :
    review ∈ c.now.state.reviews := by
  induction hrun with
  | refl => cases hfound
  | @tail d e _ hstep ih =>
      have hsubset := reviews_subset_of_step hstep
      cases hstep with
      | perform pid' command next outside resp state hproc hcond hexec =>
          rcases List.mem_cons.mp hfound with heq | hold
          · injection heq with _ hcommand hresp
            subst hcommand
            obtain rfl := eq_of_heq hresp
            have hanswer := Option.some.inj hexec
            unfold execDelivery at hanswer
            split at hanswer
            · cases (Prod.mk.inj hanswer).1
            · have hfirst := Except.ok.inj (Prod.mk.inj hanswer).1
              exact hsubset (List.mem_filter.mp (Sql.mem_of_first hfirst)).1
          · exact hsubset (ih hold)
      | spawn call hcond =>
          exact hsubset (ih ((List.mem_cons.mp hfound).resolve_left nofun))
      | finish pid' result hproc hcond =>
          exact hsubset (ih ((List.mem_cons.mp hfound).resolve_left nofun))
      | crash pid' p hproc hcond =>
          exact hsubset (ih ((List.mem_cons.mp hfound).resolve_left nofun))
      | change env state hcond henv =>
          exact hsubset (ih ((List.mem_cons.mp hfound).resolve_left nofun))

end Reviews

section Approvals

variable {store : DeliveryStore} {id : JsString} {c : DeliveryConfig} {pid : ℕ}

/-- The query of a delivery selects the approvals of exactly the run and the commit. -/
theorem isOf_of_selects {query : ReviewQuery} {row : CandidateRow} {review : ReviewRecord}
    (hnames : query.Names row) (hselects : query.selects review = true) :
    review.isOf row = true ∧ review.verdict = .approved := by
  obtain ⟨horg, hproject, hissue, hrun, hsha⟩ := hnames
  simp only [ReviewQuery.selects, Bool.and_eq_true, decide_eq_true_eq] at hselects
  obtain ⟨⟨⟨⟨⟨h₁, h₂⟩, h₃⟩, h₄⟩, h₅⟩, hverdict⟩ := hselects
  refine ⟨?_, hverdict⟩
  simp only [ReviewRecord.isOf, Bool.and_eq_true, decide_eq_true_eq]
  refine ⟨⟨⟨⟨h₁.trans horg, h₂.trans hproject⟩, h₃.trans hissue⟩, h₄.trans hrun⟩, ?_⟩
  rw [hsha, h₅]

theorem someApproves_of_found (hrun : Reached deliverySystem store c)
    (hfound : ReviewFound id pid c.now) : SomeApproves id c.now.state := by
  obtain ⟨row, query, review, hrow, hnames, hselects, hmem⟩ := hfound
  obtain ⟨hof, hverdict⟩ := isOf_of_selects hnames hselects
  refine ⟨review, ?_, hverdict⟩
  simp only [reviewsOf, hrow]
  exact List.mem_filter.mpr ⟨mem_reviews_of_found hrun hmem, hof⟩

/-- When some review approves, the most recent one does, unless another verdict is on
record. -/
theorem latestApproves_or_of_some {s : DeliveryStore} (hsome : SomeApproves id s) :
    LatestApproves id s ∨ ∃ review ∈ reviewsOf id s, review.verdict ≠ .approved := by
  obtain ⟨review, hreview, _⟩ := hsome
  have hne : reviewsOf id s ≠ [] := List.ne_nil_of_mem hreview
  have hlast := List.getLast_mem hne
  by_cases happroved : ((reviewsOf id s).getLast hne).verdict = .approved
  · left
    exact ⟨_, List.getLast?_eq_some_getLast hne, happroved⟩
  · right
    exact ⟨_, hlast, happroved⟩

/-- An approval that has been looked up governs every push, pull request and merge,
whatever the callers, the reviews, the outside answers and the crashes. -/
theorem approvalGoverns_of_fresh (hfresh : FreshCandidate store id) :
    ApprovalGoverns store id := by
  intro c c' pid call command resp hrun hstep hspawn hid heffect hpast
  have hsafe := deliveryOrchestrator_safe hfresh
  have hlookedUp : ReviewLookedUp id pid c.now command := by
    cases command with
    | pushBranch input => exact (hsafe.push hrun hstep hspawn hid hpast).2.1
    | openPullRequest input => exact (hsafe.pullRequest hrun hstep hspawn hid hpast).2.1
    | mergePullRequest input => exact (hsafe.merge hrun hstep hspawn hid hpast).2.1
    | _ => cases heffect
  have hsome : SomeApproves id c.now.state := by
    cases command with
    | mergePullRequest input =>
        obtain ⟨pid', hfound⟩ := hlookedUp
        exact someApproves_of_found hrun hfound
    | pushBranch input => exact someApproves_of_found hrun hlookedUp
    | openPullRequest input => exact someApproves_of_found hrun hlookedUp
    | _ => cases heffect
  exact ⟨hsome, hlookedUp, latestApproves_or_of_some hsome⟩

end Approvals

/-! ## A rejection after an approval -/

theorem reviewsOf_eq_of_evolves {id : JsString} {s s' : DeliveryStore} {row : CandidateRow}
    (hevolves : CandidateEvolves id s s') (hrow : s'.candidates id = some row)
    (hne : reviewsOf id s ≠ []) :
    reviewsOf id s = s.reviews.filter fun review => review.isOf row := by
  unfold reviewsOf at hne ⊢
  cases hbefore : s.candidates id with
  | none => simp only [hbefore, ne_eq, not_true_eq_false] at hne
  | some before =>
      simp only [hbefore] at hne ⊢
      obtain ⟨review, hreview⟩ := List.exists_mem_of_ne_nil _ hne
      have hof := (List.mem_filter.mp hreview).2
      simp only [ReviewRecord.isOf, Bool.and_eq_true, decide_eq_true_eq] at hof
      obtain ⟨row', hrow', hscope, hkeep⟩ := hevolves before hbefore
      obtain rfl : row = row' := Option.some.inj (hrow.symm.trans hrow')
      have hsha : row.commitSha = before.commitSha := by
        rw [hof.2]
        exact hkeep _ hof.2
      refine List.filter_congr fun other _ => ?_
      simp only [ReviewRecord.isOf, hscope, hsha]

def reviewedSha : JsString := js "b1946ac92492d2347c6235b4d2611184b1946ac9"

def approvingReview : ReviewRecord :=
  { sampleReview with targetCommitSha := reviewedSha }

def rejectingReview : ReviewRecord :=
  { approvingReview with
    id := js "review-2"
    idempotencyKey := js "review-0002"
    reviewerIdentity := js "second-reviewer"
    verdict := .rejected
    reviewedAt := 2 }

def reviewedOutside : Outside :=
  { sampleOutside with commit := ⟨reviewedSha, js "one file"⟩ }

def reviewedRow : CandidateRow :=
  { sampleRow with
    commitSha := some reviewedSha
    reviewId := some (js "review")
    state := .reviewed
    version := 3 }

def rejectedSchedule : List (Action DeliveryCall Outside ReviewRecord) :=
  [.spawn (.checkpoint (js "candidate") (js "checkpoint-1"))] ++
    List.replicate 4 (.perform 0 reviewedOutside) ++
    [.change approvingReview, .change rejectingReview,
      .spawn (.deliver (js "candidate") (js "deliver-1"))] ++
    List.replicate 6 (.perform 1 reviewedOutside)

/-- The verdict of the last of the reviews after `past` that are of the candidate. -/
def lastVerdict (past : List DeliveryEvent) : Option ReviewVerdict :=
  (((reviewsAfter sampleStore past).filter fun review => review.isOf reviewedRow).getLast?).map
    fun review => review.verdict

/-- Ever since process `pid` was spawned, the last verdict has been `verdict`. -/
def verdictThroughout (pid : ℕ) (verdict : ReviewVerdict) (past : List DeliveryEvent) : Bool :=
  past.tails.all fun earlier =>
    !((spawnedCalls earlier).any fun entry => entry.1 = pid) ||
      decide (lastVerdict earlier = some verdict)

/-- What is seen of a delivery that is about to push: the spawned calls, the candidate's
row, whether the last verdict has been a rejection all along, and who pushes. -/
structure PushView where
  calls : List (ℕ × DeliveryCall)
  row : Option CandidateRow
  rejected : Bool
  pusher : Option ℕ
  deriving DecidableEq

def lastPusher : List DeliveryEvent → Option ℕ
  | .performed pid (.pushBranch _) _ :: _ => some pid
  | _ => none

def pushView (c : DeliveryConfig) : PushView :=
  { calls := spawnedCalls c.now.past
    row := c.now.state.candidates (js "candidate")
    rejected := verdictThroughout 1 .rejected c.now.past
    pusher := (step deliverySystem c (.perform 1 reviewedOutside)).bind fun c' =>
      lastPusher c'.now.past }

theorem exists_of_lastPusher {past : List DeliveryEvent} {pid : ℕ}
    (h : lastPusher past = some pid) :
    ∃ input resp rest, past = .performed pid (.pushBranch input) resp :: rest := by
  unfold lastPusher at h
  split at h
  · next input resp rest =>
    obtain rfl := Option.some.inj h
    exact ⟨input, resp, rest, rfl⟩
  · cases h

/-- A commit that was approved and then rejected is pushed by a delivery that starts after
the rejection. -/
theorem not_latestGoverns : ¬ LatestGoverns sampleStore (js "candidate") := by
  intro hgoverns
  have hrun : (execute deliverySystem (Config.initial sampleStore) rejectedSchedule).map
      pushView = some
        { calls := [(1, .deliver (js "candidate") (js "deliver-1")),
            (0, .checkpoint (js "candidate") (js "checkpoint-1"))]
          row := some reviewedRow
          rejected := true
          pusher := some 1 } := by
    decide +kernel
  obtain ⟨c, hc, hview⟩ := Option.map_eq_some_iff.mp hrun
  simp only [pushView, PushView.mk.injEq] at hview
  obtain ⟨hcalls, hrow, hrejected, hpusher⟩ := hview
  obtain ⟨c', hc', hpush⟩ := Option.bind_eq_some_iff.mp hpusher
  obtain ⟨input, resp, rest, hpast⟩ := exists_of_lastPusher hpush
  have hreached := reached_of_execute hc
  have hstep : DeliveryStep c c' := step_sound hc'
  obtain ⟨e, he⟩ := hstep.past
  have hrest : rest = c.now.past := (List.cons.inj (hpast.symm.trans he)).2
  subst hrest
  have hspawn : .spawned 1 (.deliver (js "candidate") (js "deliver-1")) ∈ c.now.past := by
    rw [← mem_spawnedCalls, hcalls]
    exact List.mem_cons_self
  obtain ⟨d, hd, hsteps, hspawned, review, hlatest, happroved⟩ :=
    hgoverns hreached hstep hspawn rfl rfl hpast
  have hevolves := (Outline.steps_sound (deliveryOutline_entries (js "candidate"))
    (sound_of_reached sampleStore_fresh hd) hsteps).2
  -- the reviews of the candidate at `d` are those that its past tells
  have hne : reviewsOf (js "candidate") d.now.state ≠ [] := by
    intro hnil
    simp [latestReview, hnil] at hlatest
  have hverdict : lastVerdict d.now.past = some .approved := by
    rw [lastVerdict, ← reviews_of_reached hd, ← reviewsOf_eq_of_evolves hevolves hrow hne]
    rw [latestReview] at hlatest
    rw [hlatest, Option.map_some, happroved]
  have hthroughout := List.all_eq_true.mp hrejected d.now.past
    ((List.mem_tails _ _).mpr (past_suffix_of_steps hsteps))
  have hrunning : ((spawnedCalls d.now.past).any fun entry => entry.1 = 1) = true :=
    List.any_eq_true.mpr ⟨_, mem_spawnedCalls.mpr hspawned, by simp⟩
  simp [hrunning, hverdict] at hthroughout

theorem approvalGoverns_sampleStore : ApprovalGoverns sampleStore (js "candidate") :=
  approvalGoverns_of_fresh sampleStore_fresh

end DevHarness.Delivery
