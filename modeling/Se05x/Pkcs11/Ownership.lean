import Se05x.Pkcs11.DemoProperties
import Se05x.Pkcs11.LifecycleProperties

/-!
# Which handles a demo holds

At each point of a demo the objects it has made and not destroyed are those of the handle
variables in use, the latest first; every other handle variable is zero.
-/

set_option autoImplicit false

namespace Se05x.Pkcs11

open Interaction Procedure

structure Holding (vars : List HandleVar) (l : Locals) (objects : Ledger ObjectHandle) : Prop where
  held : objects.held = vars.map l.handles
  exactly : ∀ h, l.handles h ≠ ckInvalidHandle ↔ h ∈ vars

namespace Holding

variable {vars : List HandleVar} {l : Locals} {objects : Ledger ObjectHandle} {h : HandleVar}
  {handle : ObjectHandle}

theorem held_of_mem (holding : Holding vars l objects) (member : h ∈ vars) :
    l.handles h ∈ objects.held := by
  rw [holding.held]
  exact List.mem_map_of_mem member

/-- An object in use has not been destroyed. -/
theorem unreleased (holding : Holding vars l objects) (member : h ∈ vars) :
    l.handles h ∉ objects.released :=
  objects.apart _ (holding.held_of_mem member)

theorem eq_zero (holding : Holding vars l objects) (absent : h ∉ vars) :
    l.handles h = ckInvalidHandle :=
  not_not.mp fun set => absent ((holding.exactly h).mp set)

theorem map_setHandle (absent : h ∉ vars) :
    vars.map (l.setHandle h handle).handles = vars.map l.handles :=
  List.map_congr_left fun _ member => Locals.setHandle_other fun same => absent (same ▸ member)

theorem clear (holding : Holding vars l objects) (absent : h ∉ vars) :
    Holding vars (l.setHandle h ckInvalidHandle) objects := by
  refine ⟨by rw [map_setHandle absent, holding.held], fun other => ?_⟩
  by_cases same : other = h
  · subst same
    simp only [Locals.setHandle_self, ne_eq, not_true_eq_false, absent]
  · rw [Locals.setHandle_other same]
    exact holding.exactly other

theorem acquire (holding : Holding vars l objects) (absent : h ∉ vars)
    (nonzero : handle ≠ ckInvalidHandle) (fresh : handle ∉ objects.held) :
    Holding (h :: vars) (l.setHandle h handle) (objects.acquire handle) := by
  refine ⟨?_, fun other => ?_⟩
  · rw [Ledger.acquire_held fresh, List.map_cons, Locals.setHandle_self, map_setHandle absent,
      holding.held]
  · by_cases same : other = h
    · subst same
      simp only [Locals.setHandle_self, ne_eq, nonzero, not_false_eq_true, List.mem_cons, true_or]
    · rw [Locals.setHandle_other same, holding.exactly other, List.mem_cons]
      simp only [same, false_or]

theorem release (holding : Holding (h :: vars) l objects) :
    Holding vars (l.setHandle h ckInvalidHandle) (objects.release (l.handles h)) := by
  have distinct := objects.distinct
  rw [holding.held] at distinct
  have absent : h ∉ vars := by
    intro member
    exact (List.nodup_cons.mp distinct).1 (List.mem_map_of_mem member)
  refine ⟨?_, fun other => ?_⟩
  · rw [Ledger.release_held holding.held, map_setHandle absent]
  · by_cases same : other = h
    · subst same
      simp only [Locals.setHandle_self, ne_eq, not_true_eq_false, absent]
    · rw [Locals.setHandle_other same, holding.exactly other, List.mem_cons]
      simp only [same, false_or]

end Holding

/-- In the session, holding the objects of exactly these variables. -/
def Owns (session : SessionHandle) (vars : List HandleVar) (l : Locals) (stage : Stage) : Prop :=
  ∃ objects, stage = .inSession session objects ∧ Holding vars l objects

theorem Owns.fail {session : SessionHandle} {vars : List HandleVar} {l : Locals} {stage : Stage}
    (owns : Owns session vars l stage) : Owns session vars l.fail stage := by
  obtain ⟨objects, rfl, holding⟩ := owns
  exact ⟨objects, rfl, holding.held, holding.exactly⟩

theorem lifecycle_quiet : Quiet lifecycle :=
  fun _ _ => ⟨trivial, fun _ _ moved => moved.2.trans next_host⟩

theorem inert_host {stage : Stage} {request : CryptokiCall} (kindOf : request.kind = .host) :
    Inert lifecycle stage request := by
  refine ⟨?_, fun answer after moved => ?_⟩
  · change stage.permits request.kind
    rw [kindOf]
    cases stage <;> trivial
  · have same := moved.2
    simp only [kindOf, next_host] at same
    exact same

theorem inert_general {session : SessionHandle} {objects : Ledger ObjectHandle}
    {request : CryptokiCall} (kindOf : request.kind = .general) :
    Inert lifecycle (.inSession session objects) request := by
  refine ⟨?_, fun answer after moved => ?_⟩
  · change Stage.permits _ request.kind
    rw [kindOf]
    trivial
  · have same := moved.2
    simp only [kindOf, Stage.next] at same
    exact same

theorem inert_working {session : SessionHandle} {objects : Ledger ObjectHandle}
    {request : CryptokiCall} {used : List ObjectHandle} (kindOf : request.kind = .working session used)
    (safe : ∀ object ∈ used, object ∉ objects.released) :
    Inert lifecycle (.inSession session objects) request := by
  refine ⟨?_, fun answer after moved => ?_⟩
  · change Stage.permits _ request.kind
    rw [kindOf]
    exact ⟨rfl, safe⟩
  · have same := moved.2
    simp only [kindOf, Stage.next] at same
    exact same

namespace Owning

variable {session : SessionHandle} {vars : List HandleVar}
  {left : Label → Locals → Stage → Prop} {invariant : Locals → Stage → Prop} {h : HandleVar}

theorem working {request : CryptokiCall} (kindOf : request.kind = .working session []) :
    Keeps lifecycle left (Owns session vars) (issue request) := by
  refine keeps_inert fun l stage owns => ?_
  obtain ⟨objects, rfl, -⟩ := owns
  exact inert_working kindOf nofun

/-- A call on an object in use. -/
theorem working_on {l : Locals} {stage : Stage} (owns : Owns session vars l stage) (member : h ∈ vars)
    {request : CryptokiCall} (kindOf : request.kind = .working session [l.handles h])
    {post : Except Label request.Answer → Locals → Stage → Prop}
    (next : ∀ answer, post (.ok answer) l stage) : (issue request).wp lifecycle post l stage := by
  obtain ⟨objects, rfl, holding⟩ := owns
  exact inert_wp (inert_working kindOf (List.forall_mem_singleton.mpr (holding.unreleased member)))
    next

theorem printing {text : String} : Keeps lifecycle left invariant (printf text) :=
  keeps_printf lifecycle_quiet

theorem printingHex {label : String} {buffer : Der.Bytes} {len : Nat} :
    Keeps lifecycle left invariant (printHex label buffer len) :=
  keeps_printHex lifecycle_quiet

theorem showing {text : (HandleVar → ObjectHandle) → String} :
    Keeps lifecycle left invariant (printHandles text) :=
  keeps_printHandles lifecycle_quiet

theorem startingSign {mechanism : Mechanism} (member : h ∈ vars) :
    Keeps lifecycle left (Owns session vars) (signInit session mechanism h) :=
  .inspecting fun _ _ owns => working_on owns member rfl fun _ => owns

theorem startingVerify {mechanism : Mechanism} (member : h ∈ vars) :
    Keeps lifecycle left (Owns session vars) (verifyInit session mechanism h) :=
  .inspecting fun _ _ owns => working_on owns member rfl fun _ => owns

theorem startingEncrypt {mechanism : Mechanism} (member : h ∈ vars) :
    Keeps lifecycle left (Owns session vars) (encryptInit session mechanism h) :=
  .inspecting fun _ _ owns => working_on owns member rfl fun _ => owns

theorem startingDecrypt {mechanism : Mechanism} (member : h ∈ vars) :
    Keeps lifecycle left (Owns session vars) (decryptInit session mechanism h) :=
  .inspecting fun _ _ owns => working_on owns member rfl fun _ => owns

theorem reading {type : AttributeType} {capacity : Nat} (member : h ∈ vars) :
    Keeps lifecycle left (Owns session vars) (getAttributeValue session h type capacity) :=
  .inspecting fun _ _ owns => working_on owns member rfl fun _ => owns

theorem exporting {type : AttributeType} {capacity : Nat} {label : String} (member : h ∈ vars) :
    Keeps lifecycle left (Owns session vars) (exportAndPrint session h type capacity label) :=
  keeps_exportAndPrint lifecycle_quiet (reading member)

/-- What a creating call leaves: with its success the new variables are in use too. -/
def Made (session : SessionHandle) (vars new : List HandleVar) (rv : CkRv) (l : Locals)
    (stage : Stage) : Prop :=
  (rv = ckrOk → Owns session (new ++ vars) l stage) ∧ (rv ≠ ckrOk → Owns session vars l stage)

theorem made_one {l : Locals} {stage after : Stage} {request : CryptokiCall}
    {answer : request.Answer} {used : List ObjectHandle} {rv : CkRv} {handle : ObjectHandle}
    (owns : Owns session vars l stage) (absent : h ∉ vars)
    (kindOf : request.kind = .creating session used)
    (result : outcome ⟨request, answer⟩ = (rv, [handle]))
    (moved : lifecycle.moves stage ⟨request, answer⟩ after) :
    Made session vars [h] rv (l.setHandle h handle) after := by
  obtain ⟨objects, rfl, holding⟩ := owns
  obtain ⟨promised, rfl⟩ := moved
  simp only [kindOf, result, Promised, List.mem_singleton, forall_eq, Stage.objects] at promised
  simp only [kindOf, result, Stage.next]
  constructor
  · intro succeeded
    rw [if_pos succeeded] at promised ⊢
    exact ⟨_, rfl, holding.acquire absent promised.2.1 promised.2.2⟩
  · intro failed
    rw [if_neg failed] at promised ⊢
    rw [promised]
    exact ⟨_, rfl, holding.clear absent⟩

theorem made_two {l : Locals} {stage after : Stage} {request : CryptokiCall}
    {answer : request.Answer} {used : List ObjectHandle} {rv : CkRv} {phPub phPriv : HandleVar}
    {hPub hPriv : ObjectHandle} (owns : Owns session vars l stage) (absent : phPub ∉ vars)
    (other_absent : phPriv ∉ phPub :: vars) (kindOf : request.kind = .creating session used)
    (result : outcome ⟨request, answer⟩ = (rv, [hPub, hPriv]))
    (moved : lifecycle.moves stage ⟨request, answer⟩ after) :
    Made session vars [phPriv, phPub] rv ((l.setHandle phPub hPub).setHandle phPriv hPriv)
      after := by
  obtain ⟨objects, rfl, holding⟩ := owns
  obtain ⟨promised, rfl⟩ := moved
  simp only [kindOf, result, Promised, Stage.objects] at promised
  simp only [kindOf, result, Stage.next]
  constructor
  · intro succeeded
    rw [if_pos succeeded] at promised ⊢
    obtain ⟨distinct, fresh⟩ := promised
    obtain ⟨pub, priv⟩ := List.forall_mem_cons.mp fresh
    have nonzero := List.forall_mem_singleton.mp priv
    have apart : hPriv ≠ hPub := fun same =>
      (List.nodup_cons.mp distinct).1 (same ▸ List.mem_cons_self)
    refine ⟨_, rfl, (holding.acquire absent pub.1 pub.2).acquire other_absent nonzero.1 ?_⟩
    rw [Ledger.acquire_held pub.2, List.mem_cons, not_or]
    exact ⟨apart, nonzero.2⟩
  · intro failed
    rw [if_neg failed] at promised ⊢
    obtain ⟨pub, priv⟩ := List.forall_mem_cons.mp promised
    rw [pub, List.forall_mem_singleton.mp priv]
    have priv_absent : phPriv ∉ vars := fun member => other_absent (List.mem_cons_of_mem _ member)
    exact ⟨_, rfl, (holding.clear absent).clear priv_absent⟩

theorem generating {mechanism : Mechanism} {template : Template} (absent : h ∉ vars) :
    Carries lifecycle left (Owns session vars) (Made session vars [h])
      (generateKey session mechanism template h) := by
  intro l stage owns
  obtain ⟨objects, rfl, -⟩ := id owns
  exact wp_bind.mpr ⟨⟨rfl, nofun⟩, fun _ _ moved => made_one owns absent rfl rfl moved⟩

theorem creating {template : Template} (absent : h ∉ vars) :
    Carries lifecycle left (Owns session vars) (Made session vars [h])
      (createObject session template h) := by
  intro l stage owns
  obtain ⟨objects, rfl, -⟩ := id owns
  exact wp_bind.mpr ⟨⟨rfl, nofun⟩, fun _ _ moved => made_one owns absent rfl rfl moved⟩

theorem derivingKey {mechanism : Mechanism} {base : HandleVar} {template : Template}
    (member : base ∈ vars) (absent : h ∉ vars) :
    Carries lifecycle left (Owns session vars) (Made session vars [h])
      (deriveKey session mechanism base template h) := by
  refine .inspecting fun l stage owns => ?_
  obtain ⟨objects, rfl, holding⟩ := id owns
  have safe : ∀ object ∈ [l.handles base], object ∉ objects.released :=
    List.forall_mem_singleton.mpr (holding.unreleased member)
  exact wp_bind.mpr ⟨⟨rfl, safe⟩, fun _ _ moved => made_one owns absent rfl rfl moved⟩

theorem pairing {mechanism : Mechanism} {publicTemplate privateTemplate : Template}
    {phPub phPriv : HandleVar} (absent : phPub ∉ vars) (other_absent : phPriv ∉ phPub :: vars) :
    Carries lifecycle left (Owns session vars) (Made session vars [phPriv, phPub])
      (generateKeyPair session mechanism publicTemplate privateTemplate phPub phPriv) := by
  intro l stage owns
  obtain ⟨objects, rfl, -⟩ := id owns
  exact wp_bind.mpr ⟨⟨rfl, nofun⟩, fun _ _ moved =>
    made_two owns absent other_absent rfl rfl moved⟩

/-- `CK_CHECK` of a creating call. -/
theorem checking_made {name : String} {rv : CkRv} {new : List HandleVar}
    (failing : ∀ l stage, Owns session vars l stage → left .cleanup l stage) :
    Carries lifecycle left (Made session vars new rv) (fun _ => Owns session (new ++ vars))
      (ckCheck name rv) :=
  carries_ckCheck lifecycle_quiet (fun succeeded _ _ made => made.1 succeeded)
    fun failed l stage made => failing l.fail stage (made.2 failed).fail

theorem skipping_made {label : Label} {skipped : String} {rv : CkRv} {new : List HandleVar}
    (skip : ∀ l stage, Owns session vars l stage → left label l stage) :
    Carries lifecycle left (Made session vars new rv) (fun _ => Owns session (new ++ vars))
      (skipUnlessOk label skipped rv) :=
  carries_skipUnlessOk lifecycle_quiet (fun succeeded _ _ made => made.1 succeeded)
    fun failed l stage made => skip l stage (made.2 failed)

theorem checking {name : String} {rv : CkRv}
    (failing : ∀ l stage, Owns session vars l stage → left .cleanup l stage) :
    Keeps lifecycle left (Owns session vars) (ckCheck name rv) :=
  keeps_ckCheck lifecycle_quiet fun l stage owns => failing l.fail stage owns.fail

theorem requiring {label : Label} {failure : String} {rv : CkRv}
    (failing : ∀ l stage, Owns session vars l stage → left label l stage) :
    Keeps lifecycle left (Owns session vars) (requireOk label failure rv) :=
  keeps_requireOk lifecycle_quiet fun l stage owns => failing l.fail stage owns.fail

theorem marking {text : String} : Keeps lifecycle left (Owns session vars) (markFailed text) :=
  carries_markFailed lifecycle_quiet fun _ _ owns => owns.fail

theorem declaring (absent : h ∉ vars) : Keeps lifecycle left (Owns session vars) (declare h) := by
  refine .writing fun l stage owns => ?_
  obtain ⟨objects, rfl, holding⟩ := owns
  exact ⟨objects, rfl, holding.clear absent⟩

theorem destroying :
    Carries lifecycle left (Owns session (h :: vars)) (fun _ => Owns session vars)
      (destroy session h) := by
  refine .inspecting fun l stage owns => ?_
  obtain ⟨objects, rfl, holding⟩ := owns
  have set : l.handles h ≠ ckInvalidHandle := (holding.exactly h).mpr List.mem_cons_self
  rw [if_pos set]
  refine wp_bind.mpr ⟨⟨rfl, holding.held_of_mem List.mem_cons_self⟩, fun _ after moved => ?_⟩
  exact ⟨_, moved.2, holding.release⟩

/-- A second `DESTROY` does nothing. -/
theorem destroying_absent (absent : h ∉ vars) :
    Keeps lifecycle left (Owns session vars) (destroy session h) := by
  refine .inspecting fun l stage owns => ?_
  obtain ⟨objects, rfl, holding⟩ := id owns
  rw [if_neg (not_not.mpr (holding.eq_zero absent))]
  exact owns

/-- Where the cleanup label is reached: the variables in use are some of those it releases,
the latest of them first. -/
def Settled (session : SessionHandle) (released : List HandleVar) (l : Locals) (stage : Stage) :
    Prop :=
  ∃ vars, vars <:+ released ∧ Owns session vars l stage

theorem releasing {released : List HandleVar} (distinct : released.Nodup) :
    Carries lifecycle left (Settled session released) (fun _ => Owns session [])
      (released.forM (destroy session)) := by
  induction released with
  | nil =>
      intro l stage settled
      obtain ⟨vars, suffix, owns⟩ := settled
      rw [List.suffix_nil.mp suffix] at owns
      exact owns
  | cons h released ih =>
      obtain ⟨absent, distinct⟩ := List.nodup_cons.mp distinct
      have first : Carries lifecycle left (Settled session (h :: released))
          (fun _ => Settled session released) (destroy session h) := by
        intro l stage settled
        obtain ⟨vars, suffix, owns⟩ := settled
        cases List.suffix_cons_iff.mp suffix with
        | inl all =>
            rw [all] at owns
            exact destroying.weaken
              (fun _ _ _ owned => ⟨released, List.suffix_refl _, owned⟩) l stage owns
        | inr fewer =>
            have unused : h ∉ vars := fun member => absent (fewer.subset member)
            exact (destroying_absent unused).weaken (fun _ _ _ owned => ⟨vars, fewer, owned⟩)
              l stage owns
      exact .bind first fun _ => ih distinct

end Owning

end Se05x.Pkcs11
