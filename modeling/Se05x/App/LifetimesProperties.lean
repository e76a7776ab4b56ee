import Mathlib.Algebra.Order.Group.Multiset
import Mathlib.Tactic.Abel
import Se05x.App.CsrCleanupProperties
import Se05x.App.Entry
import Se05x.Sss.Lifetimes
import Se05x.Sss.Reference

/-!
# What the demos hold

Every demo gives back, on every path, what it took of the secure subsystem, and works only
with what it holds.
-/

set_option autoImplicit false

namespace Se05x.App

open Der Interaction Procedure

/-- What the locals stand for. -/
def Locals.owned (l : Locals) : Holdings :=
  l.keyPair.live + l.bob.live + l.shared.live + live .asymmetric l.asym + live .deriveKey l.dctx +
    live .digest l.digCtx

section Owned

variable {l : Locals} {object : SssObject}

theorem owned_setAsym {context : KeyContext} (free : l.asym = none) :
    (l.setAsym (some context)).owned = .asymmetric context ::ₘ l.owned := by
  rw [← Multiset.singleton_add]
  simp only [Locals.owned, Locals.setAsym, free, live]
  abel

theorem owned_asym : l.owned = live .asymmetric l.asym + (l.setAsym none).owned := by
  simp only [Locals.owned, Locals.setAsym, live]
  abel

theorem owned_setDctx {context : KeyContext} (free : l.dctx = none) :
    Locals.owned { l with dctx := some context } = .deriveKey context ::ₘ l.owned := by
  rw [← Multiset.singleton_add]
  simp only [Locals.owned, free, live]
  abel

theorem owned_setDigCtx {context : DigestContext} (free : l.digCtx = none) :
    Locals.owned { l with digCtx := some context } = .digest context ::ₘ l.owned := by
  rw [← Multiset.singleton_add]
  simp only [Locals.owned, free, live]
  abel

theorem keyPair_owned (bound : l.keyPair.live = {.object object}) : .object object ∈ l.owned := by
  simp [Locals.owned, bound]

theorem bob_owned (bound : l.bob.live = {.object object}) : .object object ∈ l.owned := by
  simp [Locals.owned, bound]

theorem shared_owned (bound : l.shared.live = {.object object}) : .object object ∈ l.owned := by
  simp [Locals.owned, bound]

theorem asym_owned {context : KeyContext} (opened : l.asym = some context)
    (bound : .object context.keyObject ∈ l.owned) :
    {.asymmetric context, .object context.keyObject} ⊆ l.owned := by
  refine Multiset.cons_subset.mpr ⟨?_, Multiset.singleton_subset.mpr bound⟩
  simp [Locals.owned, opened, live]

end Owned

/-- The locals are known up to the status, and this is held. -/
def Holding (known : Locals) (holdings : Holdings) (l : Locals) (held : Holdings) : Prop :=
  (∃ st, l = { known with status := st }) ∧ held = holdings

/-- The way out is the cleanup label, where this holds. -/
def Leaves (holds : Locals → Holdings → Prop) : Exit → Locals → Holdings → Prop
  | .leave _, _, _ => False
  | .cleanup, l, held | .fail, l, held => holds l held

/-- The locals account for all that is held, and are such as the label can clean up. -/
def Accounted (cleanable : Locals → Prop) (l : Locals) (held : Holdings) : Prop :=
  ∃ known, cleanable known ∧ Holding known known.owned l held

/-- From one assignment of the locals the body leads to another; both account for all that
is held. -/
abbrev Leads {Value : Type} (cleanable : Locals → Prop) (known last : Locals) (body : Body Value) :
    Prop :=
  Carries lifetimes (Leaves (Accounted cleanable)) (Holding known known.owned)
    (fun _ => Holding last last.owned) body

section Steps

variable {cleanable : Locals → Prop} {known middle last : Locals} {holdings : Holdings}
  {holds : Locals → Holdings → Prop} {left : Exit → Locals → Holdings → Prop} {Value Result : Type}

theorem issue_books {request : HostCall} (allowed : lifetimes.allows holdings request) :
    Carries lifetimes left (Holding known holdings)
      (fun answer => Holding known (holdings.book ⟨request, answer⟩)) (issue request) := by
  intro l held entered
  obtain ⟨same, rfl⟩ := entered
  exact ⟨allowed, fun answer after moved => ⟨same, moved⟩⟩

theorem sss_books {request : SssCall} (allowed : request.uses ⊆ holdings) :
    Carries lifetimes left (Holding known holdings)
      (fun answer => Holding known (holdings.book ⟨.sss request, answer⟩)) (sss request) :=
  @issue_books _ _ _ (.sss request) allowed

theorem ensure_holds {st : SssStatus} (clean : ∀ st, holds { known with status := st } holdings) :
    Carries lifetimes (Leaves holds) (Holding known holdings) (fun _ => Holding known holdings)
      (ensure st) := by
  intro l held entered
  obtain ⟨⟨before, rfl⟩, rfl⟩ := entered
  rw [wp_ensure]
  exact ⟨fun _ => ⟨⟨.success, rfl⟩, rfl⟩, fun _ => clean st⟩

theorem ensure_leaves {st : SssStatus} {continuation : Unit → Body Value}
    {ends : Value → Locals → Holdings → Prop} (failed : st ≠ .success)
    (clean : holds { known with status := st } holdings) :
    Carries lifetimes (Leaves holds) (Holding known holdings) ends (ensure st >>= continuation) := by
  intro l held entered
  obtain ⟨⟨before, rfl⟩, rfl⟩ := entered
  rw [wp_bind, wp_ensure]
  exact ⟨fun passed => absurd passed failed, fun _ => clean⟩

theorem accounted {st : SssStatus} (clean : cleanable known) :
    Accounted cleanable { known with status := st } known.owned :=
  ⟨known, clean, ⟨st, rfl⟩, rfl⟩

theorem log_leads {text : String} : Leads cleanable known known (logInfo text) :=
  issue_books trivial

theorem error_leads {text : String} : Leads cleanable known known (logError text) :=
  issue_books trivial

theorem bytes_leads {label : String} {bytes : Bytes} :
    Leads cleanable known known (logBytes label bytes) :=
  issue_books trivial

/-- A checked call that neither creates nor frees anything. -/
theorem checked_leads {request : SssCall} {answered : request.Answer → SssStatus}
    {continuation : request.Answer → Unit → Body Value} (clean : cleanable known)
    (allowed : request.uses ⊆ known.owned)
    (unbooked : ∀ answer, known.owned.book ⟨.sss request, answer⟩ = known.owned)
    (rest : ∀ answer, Leads cleanable known last (continuation answer ())) :
    Leads cleanable known last (sss request >>= fun answer =>
      ensure (answered answer) >>= continuation answer) := by
  refine (sss_books allowed).bind fun answer => ?_
  rw [unbooked]
  exact (ensure_holds fun _ => accounted clean).bind fun _ => rest answer

/-- A call whose success the locals then record. -/
theorem taken_leads {request : SssCall} {answered : request.Answer → SssStatus}
    {update : Locals → Locals} {continuation : Unit → Body Value} (clean : cleanable known)
    (allowed : request.uses ⊆ known.owned)
    (booked : ∀ answer, known.owned.book ⟨.sss request, answer⟩ =
      if answered answer = .success then middle.owned else known.owned)
    (assigned : update { known with status := .success } = { middle with status := .success })
    (rest : Leads cleanable middle last (continuation ())) :
    Leads cleanable known last (sss request >>= fun answer =>
      ensure (answered answer) >>= fun _ => modify update >>= continuation) := by
  refine (sss_books allowed).bind fun answer => ?_
  rw [booked]
  intro l held entered
  obtain ⟨⟨before, rfl⟩, booking⟩ := entered
  rw [wp_bind, wp_ensure]
  constructor
  · intro passed
    rw [if_pos passed] at booking
    exact wp_bind.mpr (rest _ _ ⟨⟨.success, assigned⟩, booking⟩)
  · intro failed
    rw [if_neg failed] at booking
    subst booking
    exact @accounted _ known _ clean

/-- A local variable for an object, zeroed so far. -/
structure Slot (place : Locals → SssObject → Locals) (known : Locals) : Prop where
  first : ∀ object, place { known with status := .success } object =
    { place known object with status := .success }
  again : ∀ object other, place { place known object with status := .success } other =
    { place known other with status := .success }
  owned : ∀ object, (place known object).owned = object.live + known.owned

theorem slot_keyPair (free : known.keyPair = .zeroed) : Slot Locals.setKeyPair known where
  first _ := rfl
  again _ _ := rfl
  owned object := by
    simp only [Locals.owned, Locals.setKeyPair, free, SssObject.live]
    abel

theorem slot_bob (free : known.bob = .zeroed) : Slot Locals.setBob known where
  first _ := rfl
  again _ _ := rfl
  owned object := by
    simp only [Locals.owned, Locals.setBob, free, SssObject.live]
    abel

theorem slot_shared (free : known.shared = .zeroed) : Slot Locals.setShared known where
  first _ := rfl
  again _ _ := rfl
  owned object := by
    simp only [Locals.owned, Locals.setShared, free, SssObject.live]
    abel

/-- The two steps that bind an object to an identifier. -/
theorem bound_leads {place : Locals → SssObject → Locals} {request : SssCall}
    {answered : request.Answer → SssStatus} {object : SssObject} {continuation : Unit → Body Value}
    (slot : Slot place known) (clean : cleanable known)
    (cleanInitialised : cleanable (place known .initialised))
    (uses : request.uses = {.object .initialised})
    (binds : ∀ held : Holdings, ∀ answer, held.book ⟨.sss request, answer⟩ =
      if answered answer = .success then object.live + held.erase (.object .initialised) else held)
    (rest : Leads cleanable (place known object) last (continuation ())) :
    Leads cleanable known last (do
      ensure (← sss .keyObjectInit)
      modify (place · .initialised)
      sss request >>= fun answer => ensure (answered answer) >>= fun _ =>
        modify (place · object) >>= continuation) := by
  have initialised : (place known .initialised).owned =
      .object .initialised ::ₘ known.owned := slot.owned _
  refine @taken_leads _ _ (place known .initialised) _ _ .keyObjectInit id _ _ clean
    (Multiset.zero_subset _) ?_ (slot.first _) ?_
  · intro st
    rw [initialised]
    rfl
  · refine taken_leads cleanInitialised ?_ ?_ (slot.again _ _) rest
    · rw [uses, initialised]
      exact Multiset.singleton_subset.mpr (Multiset.mem_cons_self _ _)
    · intro answer
      rw [binds, initialised, Multiset.erase_cons_head, slot.owned]

theorem getKeyHandle_leads {keyId : KeyId} {continuation : Unit → Body Value}
    (free : known.keyPair = .zeroed) (clean : cleanable known)
    (cleanInitialised : cleanable (known.setKeyPair .initialised))
    (rest : Leads cleanable (known.setKeyPair (.existing keyId)) last (continuation ())) :
    Leads cleanable known last (getKeyHandle keyId >>= continuation) := by
  rw [getKeyHandle]
  simp only [bind_assoc]
  exact @bound_leads _ _ _ _ _ (.keyObjectGetHandle keyId) id _ _ (slot_keyPair free) clean
    cleanInitialised rfl (fun _ _ => rfl) rest

theorem allocateKey_leads {place : Locals → SssObject → Locals} {keyId : KeyId} {keyPart : KeyPart}
    {cipherType : CipherType} {keyByteLenMax : Nat} {mode : ObjectMode}
    {continuation : SssObject → Body Value} (slot : Slot place known) (clean : cleanable known)
    (cleanInitialised : cleanable (place known .initialised))
    (rest : Leads cleanable (place known (.allocated keyId keyPart cipherType keyByteLenMax mode)) last
      (continuation (.allocated keyId keyPart cipherType keyByteLenMax mode))) :
    Leads cleanable known last
      (allocateKey place keyId keyPart cipherType keyByteLenMax mode >>= continuation) := by
  rw [allocateKey]
  simp only [bind_assoc, pure_bind]
  exact @bound_leads _ _ _ _ place (.keyObjectAllocateHandle keyId keyPart cipherType keyByteLenMax mode)
    id _ _ slot clean cleanInitialised rfl (fun _ _ => rfl) rest

theorem eraseKeyIfExists_leads {keyId : KeyId} :
    Leads cleanable known known (eraseKeyIfExists keyId) := by
  have freed : ∀ object : SssObject, object ≠ .zeroed →
      Carries lifetimes (Leaves (Accounted cleanable)) (Holding known (.object object ::ₘ known.owned))
        (fun _ => Holding known known.owned) (sss (.keyObjectFree object)) := by
    intro object bound
    have lives : object.live = {.object object} := by
      cases object with
      | zeroed => exact absurd rfl bound
      | initialised | existing | allocated => rfl
    have gone : Holdings.book (.object object ::ₘ known.owned) ⟨.sss (.keyObjectFree object), ()⟩ =
        known.owned := by
      change (.object object ::ₘ known.owned) - object.live = known.owned
      rw [lives, Multiset.sub_singleton, Multiset.erase_cons_head]
    refine (sss_books ?_).weaken fun answer l held kept => ?_
    · change object.live ⊆ _
      rw [lives]
      exact Multiset.singleton_subset.mpr (Multiset.mem_cons_self _ _)
    · rw [← gone]
      exact kept
  have held : ∀ resource : SssResource, {resource} ⊆ resource ::ₘ known.owned :=
    fun resource => Multiset.singleton_subset.mpr (Multiset.mem_cons_self _ _)
  rw [eraseKeyIfExists]
  refine (sss_books (Multiset.zero_subset _)).bind fun st => .ite (fun passed => ?_) fun failed => ?_
  · have initialised : known.owned.book ⟨.sss .keyObjectInit, st⟩ =
        .object .initialised ::ₘ known.owned := if_pos passed
    rw [initialised]
    refine (sss_books (held _)).bind fun st => .ite (fun passed => ?_) fun failed => ?_
    · have bound : Holdings.book (.object .initialised ::ₘ known.owned)
          ⟨.sss (.keyObjectGetHandle keyId), st⟩ = .object (.existing keyId) ::ₘ known.owned :=
        (if_pos passed).trans (by rw [Multiset.erase_cons_head])
      rw [bound]
      exact (sss_books (held _)).bind fun _ => freed _ SssObject.noConfusion
    · have unbound : Holdings.book (.object .initialised ::ₘ known.owned)
          ⟨.sss (.keyObjectGetHandle keyId), st⟩ = .object .initialised ::ₘ known.owned :=
        if_neg failed
      rw [unbound]
      exact freed _ SssObject.noConfusion
  · have unchanged : known.owned.book ⟨.sss .keyObjectInit, st⟩ = known.owned := if_neg failed
    rw [unchanged]
    exact .returning fun _ _ kept => kept

theorem openAsym_leads {context : KeyContext} {continuation : Unit → Body Value}
    (free : known.asym = none) (clean : cleanable known)
    (bound : .object context.keyObject ∈ known.owned)
    (rest : Leads cleanable (known.setAsym (some context)) last (continuation ())) :
    Leads cleanable known last (openAsym context >>= continuation) := by
  rw [openAsym]
  simp only [bind_assoc]
  refine @taken_leads _ _ _ _ _ (.asymmetricContextInit context) id _ _ clean
    (Multiset.singleton_subset.mpr bound) ?_ rfl rest
  intro st
  rw [owned_setAsym free]
  rfl

theorem closeAsym_leads {context : KeyContext} {continuation : Unit → Body Value}
    (opened : known.asym = some context) (bound : .object context.keyObject ∈ known.owned)
    (rest : Leads cleanable (known.setAsym none) last (continuation ())) :
    Leads cleanable known last (closeAsym >>= continuation) := by
  have closed : known.owned.book ⟨.sss (.asymmetricContextFree known.asym), ()⟩ =
      (known.setAsym none).owned := by
    change known.owned - live .asymmetric known.asym = _
    rw [owned_asym, add_tsub_cancel_left]
  have allowed : SssCall.uses (.asymmetricContextFree known.asym) ⊆ known.owned := by
    rw [opened]
    exact asym_owned opened bound
  have closing : Leads cleanable known last (do
      sss (.asymmetricContextFree known.asym)
      modify (Locals.setAsym · none)
      continuation ()) := by
    refine (sss_books allowed).bind fun _ => ?_
    rw [closed]
    refine (Carries.writing fun l held entered => ?_).bind fun _ => rest
    obtain ⟨⟨st, rfl⟩, rfl⟩ := entered
    exact ⟨⟨st, rfl⟩, rfl⟩
  rw [closeAsym]
  simp only [bind_assoc]
  refine .inspecting fun l held entered => ?_
  obtain ⟨⟨st, rfl⟩, rfl⟩ := entered
  exact closing _ _ ⟨⟨st, rfl⟩, rfl⟩

end Steps

/-! ## Cleanup labels -/

section Cleanups

variable {cleanable : Locals → Prop} {last : Locals} {body : Body Unit}
  {cleanup : Locals → Program host Unit}

def Balances {Value : Type} (program : Program host Value) : Prop :=
  program.wp lifetimes (fun _ held => held = 0) 0

/-- A demo holds nothing afterwards if its cleanup label frees what is held there. -/
theorem demo_balances {holds : Locals → Holdings → Prop}
    (carries : Carries lifetimes (Leaves holds) (Holding .start 0) (fun _ => holds) body)
    (cleaned : ∀ l held, holds l held → ∀ st,
      (cleanup { l with status := st }).wp lifetimes (fun _ held => held = 0) held) :
    Balances (demo body cleanup) := by
  rw [Balances, demo, Program.wp_bind, wp_start]
  refine wp_mono (carries .start 0 ⟨⟨.fail, rfl⟩, rfl⟩) ?_
  intro outcome l held reached
  cases outcome with
  | ok => exact Program.wp_bind.mpr (cleaned l held reached l.status)
  | error exit =>
      cases exit with
      | cleanup => exact Program.wp_bind.mpr (cleaned l held reached l.status)
      | fail => exact Program.wp_bind.mpr (cleaned l held reached .fail)
      | leave => exact reached.elim

theorem leads_balances (leads : Leads cleanable .start last body) (clean : cleanable last)
    (cleaned : ∀ known, cleanable known → ∀ st,
      (cleanup { known with status := st }).wp lifetimes (fun _ held => held = 0) known.owned) :
    Balances (demo body cleanup) := by
  refine @demo_balances _ _ (Accounted cleanable) (leads.weaken ?_) ?_
  · exact fun _ _ _ met => ⟨last, clean, met⟩
  · intro l held met st
    obtain ⟨known, cleans, ⟨_, rfl⟩, rfl⟩ := met
    exact cleaned known cleans st

/-- A call that takes away just this, while it and the rest are held. -/
theorem freeing_wp {request : SssCall} {frees kept : Holdings}
    {continuation : request.Answer → Program host Unit} (allowed : request.uses ⊆ frees + kept)
    (books : ∀ held : Holdings, ∀ answer, held.book ⟨.sss request, answer⟩ = held - frees)
    (next : ∀ answer, (continuation answer).wp lifetimes (fun _ held => held = 0) kept) :
    (ask (.sss request) >>= continuation).wp lifetimes (fun _ held => held = 0) (frees + kept) := by
  refine ⟨allowed, fun answer after moved => ?_⟩
  have rest : after = kept := by
    rw [show after = _ from moved, books, add_tsub_cancel_left]
  rw [rest]
  exact next answer

section Frees

variable {kept : Holdings}

theorem freeObject_wp {object : SssObject} {continuation : Unit → Program host Unit}
    (next : (continuation ()).wp lifetimes (fun _ held => held = 0) kept) :
    (ask (.sss (.keyObjectFree object)) >>= continuation).wp lifetimes (fun _ held => held = 0)
      (object.live + kept) :=
  freeing_wp (Multiset.subset_of_le (Multiset.le_add_right _ _)) (fun _ _ => rfl) fun _ => next

theorem freeDigest_wp {context : Option DigestContext} {continuation : Unit → Program host Unit}
    (next : (continuation ()).wp lifetimes (fun _ held => held = 0) kept) :
    (ask (.sss (.digestContextFree context)) >>= continuation).wp lifetimes
      (fun _ held => held = 0) (live .digest context + kept) :=
  freeing_wp (Multiset.subset_of_le (Multiset.le_add_right _ _)) (fun _ _ => rfl) fun _ => next

/-- A context variable is empty, or its context was opened for this object. -/
def OpenedFor (object : SssObject) (context : Option KeyContext) : Prop :=
  context.map (fun context => ({.object context.keyObject} : Holdings)) =
    context.map fun _ => object.live

theorem freed_subset {resource : KeyContext → SssResource} {object : SssObject}
    {context : Option KeyContext} (opened : OpenedFor object context) (held : object.live ⊆ kept) :
    freed resource context ⊆ live resource context + kept := by
  cases context with
  | none => exact Multiset.zero_subset _
  | some context =>
      have bound : {.object context.keyObject} = object.live := Option.some.inj opened
      rw [freed, live, Multiset.insert_eq_cons, Multiset.cons_subset, bound]
      constructor
      · exact Multiset.mem_add.mpr (.inl (Multiset.mem_singleton_self _))
      · exact fun resource member => Multiset.mem_add.mpr (.inr (held member))

theorem freeAsym_wp {object : SssObject} {context : Option KeyContext}
    {continuation : Unit → Program host Unit} (opened : OpenedFor object context)
    (held : object.live ⊆ kept)
    (next : (continuation ()).wp lifetimes (fun _ held => held = 0) kept) :
    (ask (.sss (.asymmetricContextFree context)) >>= continuation).wp lifetimes
      (fun _ held => held = 0) (live .asymmetric context + kept) :=
  freeing_wp (freed_subset opened held) (fun _ _ => rfl) fun _ => next

theorem freeDeriveKey_wp {object : SssObject} {context : Option KeyContext}
    {continuation : Unit → Program host Unit} (opened : OpenedFor object context)
    (held : object.live ⊆ kept)
    (next : (continuation ()).wp lifetimes (fun _ held => held = 0) kept) :
    (ask (.sss (.deriveKeyContextFree context)) >>= continuation).wp lifetimes
      (fun _ held => held = 0) (live .deriveKey context + kept) :=
  freeing_wp (freed_subset opened held) (fun _ _ => rfl) fun _ => next

end Frees

theorem reported_wp {l : Locals} {text : String} :
    (reportFailure l text).wp lifetimes (fun _ held => held = 0) 0 := by
  rw [reportFailure]
  split
  · exact ⟨trivial, fun _ _ moved => moved⟩
  · rfl

/-- Only the key pair may be held. -/
structure KeyPairOnly (known : Locals) : Prop where
  bob : known.bob = .zeroed
  shared : known.shared = .zeroed
  asym : known.asym = none
  dctx : known.dctx = none
  digCtx : known.digCtx = none

theorem KeyPairOnly.owned {known : Locals} (only : KeyPairOnly known) :
    known.owned = known.keyPair.live + 0 := by
  simp only [Locals.owned, only.bob, only.shared, only.asym, only.dctx, only.digCtx, live,
    SssObject.live, add_zero]

theorem demoEcKeygen_balances : Balances demoEcKeygen := by
  have start : KeyPairOnly .start := ⟨rfl, rfl, rfl, rfl, rfl⟩
  have bound : ∀ object, KeyPairOnly (Locals.start.setKeyPair object) :=
    fun _ => ⟨rfl, rfl, rfl, rfl, rfl⟩
  refine @leads_balances KeyPairOnly (Locals.start.setKeyPair
    (.allocated demoKeyEcAlice .pair .ecNistP ecKeypairMaxBytes .persistent)) _ _ ?_ (bound _) ?_
  · have held := Multiset.singleton_subset.mpr (@keyPair_owned (Locals.start.setKeyPair
      (.allocated demoKeyEcAlice .pair .ecNistP ecKeypairMaxBytes .persistent)) _ rfl)
    refine log_leads.bind fun _ => ?_
    refine eraseKeyIfExists_leads.bind fun _ => ?_
    refine allocateKey_leads (slot_keyPair rfl) start (bound _) ?_
    refine checked_leads (bound _) held (fun _ => rfl) fun generated => ?_
    refine log_leads.bind fun _ => ?_
    refine @checked_leads _ _ _ _ (.keyStoreGetKey _ _) Prod.fst _ (bound _) held (fun _ => rfl)
      fun exported => ?_
    refine bytes_leads.bind fun _ => ?_
    exact log_leads
  · intro known only st
    rw [only.owned]
    refine freeObject_wp ?_
    exact reported_wp

theorem demoRsaKeygen_balances : Balances demoRsaKeygen := by
  have start : KeyPairOnly .start := ⟨rfl, rfl, rfl, rfl, rfl⟩
  have bound : ∀ object, KeyPairOnly (Locals.start.setKeyPair object) :=
    fun _ => ⟨rfl, rfl, rfl, rfl, rfl⟩
  refine @leads_balances KeyPairOnly (Locals.start.setKeyPair
    (.allocated demoKeyRsa .pair .rsaCrt rsaKeypairMaxBytes .persistent)) _ _ ?_ (bound _) ?_
  · refine log_leads.bind fun _ => ?_
    refine log_leads.bind fun _ => ?_
    refine eraseKeyIfExists_leads.bind fun _ => ?_
    refine allocateKey_leads (slot_keyPair rfl) start (bound _) ?_
    refine checked_leads (bound _) (Multiset.singleton_subset.mpr (keyPair_owned rfl)) (fun _ => rfl)
      fun generated => ?_
    exact log_leads
  · intro known only st
    rw [only.owned]
    refine freeObject_wp ?_
    split
    · exact ⟨trivial, fun _ _ moved => moved⟩
    · exact ⟨trivial, fun _ _ moved => moved⟩

/-- Only the key pair, an asymmetric context for it and a digest context may be held. -/
structure SigningOnly (known : Locals) : Prop where
  bob : known.bob = .zeroed
  shared : known.shared = .zeroed
  dctx : known.dctx = none
  opened : OpenedFor known.keyPair known.asym

theorem SigningOnly.owned {known : Locals} (only : SigningOnly known) :
    known.owned = live .asymmetric known.asym + (live .digest known.digCtx +
      (known.keyPair.live + 0)) := by
  simp only [Locals.owned, only.bob, only.shared, only.dctx, live, SssObject.live]
  abel

theorem signVerify_balances {heading : String} {keyId : KeyId} {message : Bytes}
    {algorithm : Algorithm} {sigBufLen : Nat} {sigLabel done failed : String} :
    Balances (signVerify heading keyId message algorithm sigBufLen sigLabel done failed) := by
  let bound := Locals.start.setKeyPair (.existing keyId)
  let digesting := { bound with digCtx := some ⟨.sha256, .digest⟩ }
  refine @leads_balances SigningOnly (digesting.setAsym (some ⟨.existing keyId, algorithm, .verify⟩))
    _ _ ?_ ⟨rfl, rfl, rfl, rfl⟩ ?_
  · refine log_leads.bind fun _ => ?_
    refine getKeyHandle_leads rfl ⟨rfl, rfl, rfl, rfl⟩ ⟨rfl, rfl, rfl, rfl⟩ ?_
    refine @taken_leads _ _ digesting _ _ (.digestContextInit ⟨.sha256, .digest⟩) id _ _
      ⟨rfl, rfl, rfl, rfl⟩ (Multiset.zero_subset _) (fun st => ?_) rfl ?_
    · rw [owned_setDigCtx rfl]
      rfl
    refine @checked_leads _ _ _ _ (.digestOneGo _ _ _) Prod.fst _ ⟨rfl, rfl, rfl, rfl⟩ ?_
      (fun _ => rfl) fun digest => ?_
    · rw [owned_setDigCtx rfl]
      exact Multiset.singleton_subset.mpr (Multiset.mem_cons_self _ _)
    refine bytes_leads.bind fun _ => ?_
    refine openAsym_leads rfl ⟨rfl, rfl, rfl, rfl⟩ (keyPair_owned rfl) ?_
    refine @checked_leads _ _ _ _ (.asymmetricSignDigest _ _ _) Prod.fst _ ⟨rfl, rfl, rfl, rfl⟩
      (asym_owned rfl (keyPair_owned rfl)) (fun _ => rfl) fun signature => ?_
    refine bytes_leads.bind fun _ => ?_
    refine closeAsym_leads rfl (keyPair_owned rfl) ?_
    refine openAsym_leads rfl ⟨rfl, rfl, rfl, rfl⟩ (keyPair_owned rfl) ?_
    refine checked_leads ⟨rfl, rfl, rfl, rfl⟩ (asym_owned rfl (keyPair_owned rfl)) (fun _ => rfl)
      fun verdict => ?_
    exact log_leads
  · intro known only st
    rw [only.owned]
    refine freeAsym_wp only.opened ?_ ?_
    · exact fun resource member => by simp [member]
    refine freeDigest_wp ?_
    refine freeObject_wp ?_
    exact reported_wp

/-- No asymmetric context and no digest context may be held, and what is derived is derived from
the key pair. -/
structure AgreeingOnly (known : Locals) : Prop where
  asym : known.asym = none
  digCtx : known.digCtx = none
  opened : OpenedFor known.keyPair known.dctx

theorem AgreeingOnly.owned {known : Locals} (only : AgreeingOnly known) :
    known.owned = live .deriveKey known.dctx + (known.shared.live + (known.bob.live +
      (known.keyPair.live + 0))) := by
  simp only [Locals.owned, only.asym, only.digCtx, live]
  abel

theorem demoEcEcdh_balances : Balances demoEcEcdh := by
  let bound := Locals.start.setKeyPair (.existing demoKeyEcAlice)
  let bob := bound.setBob (.allocated demoKeyEcBob .pair .ecNistP ecKeypairMaxBytes .persistent)
  let shared := bob.setShared (.allocated demoKeyEcShared .defaultPart .aes 32 .transient)
  let agreeing := { shared with dctx := some ⟨.existing demoKeyEcAlice, .ecdh, .computeSharedSecret⟩ }
  refine @leads_balances AgreeingOnly agreeing _ _ ?_ ⟨rfl, rfl, rfl⟩ ?_
  · refine log_leads.bind fun _ => ?_
    refine getKeyHandle_leads rfl ⟨rfl, rfl, rfl⟩ ⟨rfl, rfl, rfl⟩ ?_
    refine eraseKeyIfExists_leads.bind fun _ => ?_
    refine allocateKey_leads (slot_bob rfl) ⟨rfl, rfl, rfl⟩ ⟨rfl, rfl, rfl⟩ ?_
    refine checked_leads ⟨rfl, rfl, rfl⟩ (Multiset.singleton_subset.mpr (bob_owned rfl))
      (fun _ => rfl) fun generated => ?_
    refine log_leads.bind fun _ => ?_
    refine eraseKeyIfExists_leads.bind fun _ => ?_
    refine allocateKey_leads (slot_shared rfl) ⟨rfl, rfl, rfl⟩ ⟨rfl, rfl, rfl⟩ ?_
    refine @taken_leads _ shared agreeing _ _ (.deriveKeyContextInit _) id _ _ ⟨rfl, rfl, rfl⟩
      (Multiset.singleton_subset.mpr (keyPair_owned rfl)) (fun st => ?_) rfl ?_
    · rw [owned_setDctx rfl]
      rfl
    refine checked_leads ⟨rfl, rfl, rfl⟩ ?_ (fun _ => rfl) fun derived => ?_
    · refine Multiset.cons_subset.mpr ⟨?_, Multiset.cons_subset.mpr ⟨keyPair_owned rfl,
        Multiset.cons_subset.mpr ⟨bob_owned rfl, Multiset.singleton_subset.mpr (shared_owned rfl)⟩⟩⟩
      rw [owned_setDctx rfl]
      exact Multiset.mem_cons_self _ _
    refine log_leads.bind fun _ => ?_
    refine (sss_books (Multiset.singleton_subset.mpr (shared_owned rfl))).bind fun exported => ?_
    refine .ite (fun exports => ?_) fun refuses => ?_
    · refine bytes_leads.bind fun _ => ?_
      exact log_leads
    · refine log_leads.bind fun _ => ?_
      exact log_leads
  · intro known only st
    rw [only.owned]
    refine freeDeriveKey_wp only.opened ?_ ?_
    · exact fun resource member => by simp [member]
    refine freeObject_wp ?_
    refine freeObject_wp ?_
    refine freeObject_wp ?_
    exact reported_wp

/-- Only the key pair and an asymmetric context for it may be held. -/
structure AsymmetricOnly (known : Locals) : Prop where
  bob : known.bob = .zeroed
  shared : known.shared = .zeroed
  dctx : known.dctx = none
  digCtx : known.digCtx = none
  opened : OpenedFor known.keyPair known.asym

theorem AsymmetricOnly.owned {known : Locals} (only : AsymmetricOnly known) :
    known.owned = live .asymmetric known.asym + (known.keyPair.live + 0) := by
  simp only [Locals.owned, only.bob, only.shared, only.dctx, only.digCtx, live, SssObject.live]
  abel

theorem asymmetric_cleaned {text : String} {known : Locals} (only : AsymmetricOnly known)
    (st : SssStatus) :
    (do
      ask (.sss (.asymmetricContextFree known.asym))
      ask (.sss (.keyObjectFree known.keyPair))
      reportFailure { known with status := st } text : Program host Unit).wp lifetimes
        (fun _ held => held = 0) known.owned := by
  rw [only.owned]
  refine freeAsym_wp only.opened ?_ ?_
  · exact fun resource member => by simp [member]
  refine freeObject_wp ?_
  exact reported_wp

theorem fail_leads {known last : Locals} {Value : Type} (clean : cleanable known) :
    Leads cleanable known last (throw .fail : Body Value) :=
  .jumping fun _ _ kept => ⟨known, clean, kept⟩

theorem demoRsaEncDec_balances : Balances demoRsaEncDec := by
  let bound := Locals.start.setKeyPair (.existing demoKeyRsa)
  refine @leads_balances AsymmetricOnly
    (bound.setAsym (some ⟨.existing demoKeyRsa, .rsaesPkcs1OaepSha256, .decrypt⟩)) _ _ ?_
    ⟨rfl, rfl, rfl, rfl, rfl⟩ fun _ => asymmetric_cleaned
  refine log_leads.bind fun _ => ?_
  refine getKeyHandle_leads rfl ⟨rfl, rfl, rfl, rfl, rfl⟩ ⟨rfl, rfl, rfl, rfl, rfl⟩ ?_
  refine openAsym_leads rfl ⟨rfl, rfl, rfl, rfl, rfl⟩ (keyPair_owned rfl) ?_
  refine @checked_leads _ _ _ _ (.asymmetricEncrypt _ _ _) Prod.fst _ ⟨rfl, rfl, rfl, rfl, rfl⟩
    (asym_owned rfl (keyPair_owned rfl)) (fun _ => rfl) fun ciphertext => ?_
  refine bytes_leads.bind fun _ => ?_
  refine closeAsym_leads rfl (keyPair_owned rfl) ?_
  refine openAsym_leads rfl ⟨rfl, rfl, rfl, rfl, rfl⟩ (keyPair_owned rfl) ?_
  refine @checked_leads _ _ _ _ (.asymmetricDecrypt _ _ _) Prod.fst _ ⟨rfl, rfl, rfl, rfl, rfl⟩
    (asym_owned rfl (keyPair_owned rfl)) (fun _ => rfl) fun recovered => ?_
  refine bytes_leads.bind fun _ => ?_
  refine .ite (fun differs => ?_) fun agrees => ?_
  · refine error_leads.bind fun _ => ?_
    exact fail_leads ⟨rfl, rfl, rfl, rfl, rfl⟩
  · exact log_leads

theorem save_leads {path : String} {bytes : Bytes} {known : Locals} :
    Leads cleanable known known (saveFile path bytes) :=
  Carries.bind (issue_books trivial) fun _ => .returning fun _ _ kept => kept

theorem savePem_leads {mbedtls : Mbedtls} {csrDemo : CsrDemo} {csr : Bytes} {known : Locals} :
    Leads cleanable known known (savePem mbedtls csrDemo csr) := by
  rw [savePem]
  split
  · exact .returning fun _ _ kept => kept
  · exact log_leads.bind fun _ => save_leads

theorem ok_leads {known last : Locals} {Value Next : Type} {value : Value}
    {continuation : Value → Body Next}
    (rest : Leads cleanable known last (continuation value)) :
    Leads cleanable known last
      ((liftExcept (.ok value : Except Exit Value) : Body Value) >>= continuation) := rest

theorem requestCsr_balances {mbedtls : Mbedtls} {csrDemo : CsrDemo} {isEc : Bool} {name : Bytes}
    (roomy : Roomy mbedtls csrDemo isEc name) : Balances (requestCsr mbedtls csrDemo) := by
  let bound := Locals.start.setKeyPair (.existing csrDemo.keyId)
  refine @leads_balances AsymmetricOnly (bound.setAsym none) _ _ ?_
    ⟨rfl, rfl, rfl, rfl, rfl⟩ fun _ => asymmetric_cleaned
  refine log_leads.bind fun _ => ?_
  refine getKeyHandle_leads rfl ⟨rfl, rfl, rfl, rfl, rfl⟩ ⟨rfl, rfl, rfl, rfl, rfl⟩ ?_
  refine @checked_leads _ _ _ _ (.keyStoreGetKey _ _) Prod.fst _ ⟨rfl, rfl, rfl, rfl, rfl⟩
    (Multiset.singleton_subset.mpr (keyPair_owned rfl)) (fun _ => rfl) fun spki => ?_
  rw [roomy.information spki.2.val spki.2.property]
  refine ok_leads ?_
  cases mbedtls.sha256Ret (infoEncoding name spki.2.val) with
  | none => exact fail_leads ⟨rfl, rfl, rfl, rfl, rfl⟩
  | some hash =>
      refine openAsym_leads rfl ⟨rfl, rfl, rfl, rfl, rfl⟩ (keyPair_owned rfl) ?_
      refine @checked_leads _ _ _ _ (.asymmetricSignDigest _ _ _) Prod.fst _
        ⟨rfl, rfl, rfl, rfl, rfl⟩ (asym_owned rfl (keyPair_owned rfl)) (fun _ => rfl) fun sig => ?_
      refine closeAsym_leads rfl (keyPair_owned rfl) ?_
      rw [roomy.request spki.2.val sig.2.val spki.2.property sig.2.property]
      refine bytes_leads.bind fun _ => ?_
      refine save_leads.bind fun _ => ?_
      refine savePem_leads.bind fun _ => ?_
      refine log_leads.bind fun _ => ?_
      refine log_leads.bind fun _ => ?_
      refine log_leads.bind fun _ => ?_
      refine .writing fun l held entered => ?_
      obtain ⟨⟨_, rfl⟩, rfl⟩ := entered
      exact ⟨⟨.success, rfl⟩, rfl⟩

/-- The random number context is no local variable of the model: it is freed in any case, also
where its init failed. -/
theorem demoRng_balances : Balances demoRng := by
  refine @demo_balances _ _ (fun _ held => held = {.rngContext} ∨ held = {.rngContext, .rng}) ?_ ?_
  · refine (@issue_books _ _ _ (.logInfo _) trivial).bind fun _ => ?_
    refine (sss_books (Multiset.zero_subset _)).bind fun st => ?_
    by_cases passed : st = .success
    · have begun : Holdings.book 0 ⟨.sss .rngContextInit, st⟩ = {.rngContext, .rng} :=
        congrArg (Multiset.cons _) (if_pos passed)
      change Carries _ _ (Holding .start (Holdings.book 0 ⟨.sss .rngContextInit, st⟩)) _ _
      rw [begun]
      refine (ensure_holds fun _ => .inr rfl).bind fun _ => ?_
      have opened : SssCall.uses (.rngGetRandom 32) ⊆ {.rngContext, .rng} :=
        Multiset.singleton_subset.mpr (by decide)
      refine (sss_books opened).bind fun answer => ?_
      refine (ensure_holds fun _ => .inr rfl).bind fun _ => ?_
      refine (@issue_books _ _ _ (.logBytes _ _) trivial).bind fun _ => ?_
      exact (@issue_books _ _ _ (.logInfo _) trivial).weaken fun _ _ _ met => .inr met.2
    · have unbegun : Holdings.book 0 ⟨.sss .rngContextInit, st⟩ = {.rngContext} :=
        congrArg (Multiset.cons _) (if_neg passed)
      change Carries _ _ (Holding .start (Holdings.book 0 ⟨.sss .rngContextInit, st⟩)) _ _
      rw [unbegun]
      exact ensure_leaves passed (.inl rfl)
  · intro l held either st
    have allowed : SssCall.uses .rngContextFree ⊆ held := by
      refine Multiset.singleton_subset.mpr ?_
      rcases either with rfl | rfl <;> decide
    have freed : (held.erase .rngContext).erase .rng = 0 := by
      rcases either with rfl | rfl <;> decide
    refine ⟨allowed, fun _ after moved => ?_⟩
    have rest : after = 0 := Eq.trans moved freed
    subst rest
    exact reported_wp

end Cleanups

/-! ## The whole run -/

section Entry

variable {mbedtls : Mbedtls} {Value : Type}

/-- A message is no business of the secure subsystem. -/
theorem log_balances {text : String} {continuation : Unit → Program host Value}
    (rest : Balances (continuation ())) : Balances (ask (.logInfo text) >>= continuation) := by
  refine ⟨trivial, fun _ after moved => ?_⟩
  rw [show after = 0 from moved]
  exact rest

theorem error_balances {text : String} {continuation : Unit → Program host Value}
    (rest : Balances (continuation ())) : Balances (ask (.logError text) >>= continuation) := by
  refine ⟨trivial, fun _ after moved => ?_⟩
  rw [show after = 0 from moved]
  exact rest

theorem runDemos_balances {list : List (Program host SssStatus × String)}
    (each : ∀ entry ∈ list, Balances entry.1) : Balances (runDemos list) := by
  induction list with
  | nil => exact log_balances (log_balances rfl)
  | cons entry list ih =>
      obtain ⟨first, others⟩ := List.forall_mem_cons.mp each
      refine log_balances (Program.wp_bind.mpr (Program.wp_mono first fun status held empty => ?_))
      subst empty
      split
      · exact error_balances rfl
      · exact ih others

theorem exSssEntry_balances {nameDer : mbedtls.Names → Bytes} {names : mbedtls.Names}
    (documented : mbedtls.Documented nameDer) (full : mbedtls.FailsOnlyFull nameDer)
    (pemDocumented : mbedtls.PemDocumented) (parsed : mbedtls.x509StringToNames subject = some names)
    (named : (nameDer names).length = 23) : Balances (exSssEntry mbedtls) := by
  obtain ⟨⟨ec, _⟩, ⟨rsa, _⟩⟩ := demoCsr_finishes documented full pemDocumented parsed named
  have each : ∀ entry ∈ demos mbedtls, Balances entry.1 := by
    simp only [demos, List.forall_mem_cons, List.not_mem_nil, false_implies, implies_true, and_true]
    exact ⟨demoRng_balances, demoEcKeygen_balances, signVerify_balances, demoEcEcdh_balances,
      requestCsr_balances ec, demoRsaKeygen_balances, signVerify_balances, demoRsaEncDec_balances,
      requestCsr_balances rsa⟩
  refine log_balances (Program.wp_bind.mpr ?_)
  refine Program.wp_mono (runDemos_balances each) fun status held empty => ?_
  subst empty
  split
  · exact error_balances rfl
  · rfl

/-- Whatever the element answers, every object and context of a run is used and freed only
while it is live, and none is left. -/
theorem exSssEntry_gives_back {nameDer : mbedtls.Names → Bytes} {names : mbedtls.Names}
    (documented : mbedtls.Documented nameDer) (full : mbedtls.FailsOnlyFull nameDer)
    (pemDocumented : mbedtls.PemDocumented) (parsed : mbedtls.x509StringToNames subject = some names)
    (named : (nameDer names).length = 23) {trace : List (Event host)} {status : SssStatus}
    (run : (exSssEntry mbedtls).Runs trace status) : lifetimes.Accepts 0 trace 0 := by
  have balances := exSssEntry_balances documented full pemDocumented parsed named
  have history : lifetimes.History 0 trace (trace.foldl Holdings.book 0) :=
    Contract.history_recording_iff.mpr rfl
  have nothing : trace.foldl Holdings.book 0 = 0 := run.ensures balances history
  have accepted := run.accepted balances history
  rw [nothing] at accepted
  exact accepted

theorem exSssEntry_gives_back_reference : lifetimes.Accepts 0
    ((exSssEntry .demo).transcript SecureElement.reference.server SecureElement.reference.emptyState) 0 :=
  @exSssEntry_gives_back .demo id Mbedtls.demoName Mbedtls.demo_documented Mbedtls.demo_failsOnlyFull
    Mbedtls.demo_pemDocumented Mbedtls.demo_parses_demoSubject Mbedtls.demoName_length _ _
    Program.runs_transcript

end Entry

end Se05x.App
