import Se05x.CppApp.CsrStrictProperties
import Se05x.CppApp.Permissions
import Se05x.Mbedtls.Reference

/-!
# Where a request goes

A file gets every byte of the request's text, standard output the part before its first NUL.
-/

set_option autoImplicit false

namespace Der

theorem ofNat_ne_zero {value : Nat} (positive : 0 < value) (small : value < 256) :
    UInt8.ofNat value ≠ 0 := by
  intro same
  have toNat := congrArg UInt8.toNat same
  rw [UInt8.toNat_ofNat_of_lt' small] at toNat
  exact absurd toNat (Nat.ne_of_gt positive)

theorem base64Digit_ne_zero {value : Nat} : base64Digit value ≠ 0 := by
  fun_cases base64Digit value with
  | case1 | case2 | case3 => exact ofNat_ne_zero (by omega) (by omega)
  | case4 | case5 => decide

theorem base64_ne_zero {data : Bytes} : ∀ octet ∈ base64 data, octet ≠ 0 := by
  fun_induction base64 data with
  | case1 => exact nofun
  | case2 | case3 =>
      simp only [List.forall_mem_cons]
      exact ⟨base64Digit_ne_zero, by simp [base64Digit_ne_zero]⟩
  | case4 a b c rest ih =>
      simp only [List.forall_mem_cons]
      exact ⟨base64Digit_ne_zero, base64Digit_ne_zero, base64Digit_ne_zero, base64Digit_ne_zero, ih⟩

theorem breakLines_ne_zero {width lines : Nat} {text : Bytes}
    (nonzero : ∀ octet ∈ text, octet ≠ 0) : ∀ octet ∈ breakLines width lines text, octet ≠ 0 := by
  fun_induction breakLines width lines text with
  | case1 | case2 => exact nonzero
  | case3 lines text _ ih =>
      intro octet member
      rw [List.mem_append, List.mem_cons] at member
      obtain before | rfl | after := member
      · exact nonzero octet (List.mem_of_mem_take before)
      · decide
      · exact ih (fun other there => nonzero other (List.mem_of_mem_drop there)) octet after

/-- The text of a C string ends at its terminator. -/
theorem takeWhile_terminated {text : Bytes} (nonzero : ∀ octet ∈ text, octet ≠ 0) :
    (text ++ [0]).takeWhile (· ≠ 0) = text := by
  have all : ∀ octet ∈ text, decide (octet ≠ 0) = true :=
    fun octet member => decide_eq_true (nonzero octet member)
  rw [List.takeWhile_append_of_pos all]
  exact List.append_nil text

end Der

namespace Se05x.CppApp

open Der Interaction

theorem pemText_ne_zero {der : Bytes} :
    ∀ octet ∈ pemText pemHeader pemFooter der, octet ≠ 0 := by
  intro octet member
  rw [pemText, List.mem_append, List.mem_append] at member
  have header : ∀ octet ∈ asciiBytes pemHeader, octet ≠ 0 := by decide +kernel
  have footer : ∀ octet ∈ asciiBytes pemFooter, octet ≠ 0 := by decide +kernel
  obtain (before | inside) | after := member
  · exact header octet before
  · exact breakLines_ne_zero base64_ne_zero octet inside
  · exact footer octet after

/-- The bytes that reach the output file. -/
def stored (trace : List (Event host)) : Bytes :=
  trace.flatMap fun event => match event with
    | ⟨.writeFile _ data, true⟩ => data
    | _ => []

/-- The bytes that reach standard output. -/
def printed (trace : List (Event host)) : Bytes :=
  trace.flatMap fun event => match event with
    | ⟨.printOut text, _⟩ => text
    | _ => []

/-- A call that puts nothing into a file and nothing on standard output. -/
def Inward : HostCall → Prop
  | .writeFile _ _ | .printOut _ => False
  | _ => True

section Inward

variable {making rest : List (Event host)}

theorem flatMap_inward {shown : Event host → Bytes}
    (silent : ∀ event, Inward event.request → shown event = [])
    (inward : ∀ event ∈ making, Inward event.request) :
    (making ++ rest).flatMap shown = rest.flatMap shown := by
  have nothing : making.flatMap shown = [] :=
    List.flatMap_eq_nil_iff.mpr fun event member => silent event (inward event member)
  rw [List.flatMap_append, nothing, List.nil_append]

theorem stored_inward (inward : ∀ event ∈ making, Inward event.request) :
    stored (making ++ rest) = stored rest := by
  refine flatMap_inward (fun event quiet => ?_) inward
  split
  · exact quiet.elim
  · rfl

theorem printed_inward (inward : ∀ event ∈ making, Inward event.request) :
    printed (making ++ rest) = printed rest := by
  refine flatMap_inward (fun event quiet => ?_) inward
  split
  · exact quiet.elim
  · rfl

end Inward

variable (mbedtls : Mbedtls) (target : Target)

/-- The `csr` command's key kind. -/
def csrCommand (isEc : Bool) (a : Args) : Cpp Nat :=
  if isEc then doEcc mbedtls target a else doRsa mbedtls target a

/-- The `csr` command up to its output. -/
def csrText (isEc : Bool) (a : Args) : Cpp Bytes := do
  let id ← liftExcept (parseId target a)
  if isEc then do
    let k ← EcKey.open id
    let dn ← liftExcept (subject a)
    (k.setSigAlgo .sha256).makeCsr mbedtls target dn
  else do
    let k ← RsaKey.open id
    let dn ← liftExcept (subject a)
    k.makeCsr mbedtls target dn

variable {mbedtls target} {isEc : Bool} {a : Args}

theorem csrCommand_eq (csr : a.command = "csr") :
    csrCommand mbedtls target isEc a =
      csrText mbedtls target isEc a >>= fun text => emitText a text >>= fun _ => pure 0 := by
  cases isEc with
  | true =>
      simp only [csrCommand, csrText, doEcc, csr, ↓reduceIte]
      simp
  | false =>
      simp only [csrCommand, csrText, doRsa, csr, ↓reduceIte]
      simp

theorem permits_inward : Permits Inward (fun _ => True) where
  keyless _ _ := trivial
  allocate _ := trivial
  crypto _ _ := trivial
  allocation _ := trivial

theorem csrText_inward : Confined Inward (fun _ => True) (csrText mbedtls target isEc a) := by
  have opening : ∀ keyId, Confined Inward (fun _ => True) (openHandle keyId) := fun _ =>
    openHandle_confined permits_inward.crypto trivial trivial
  refine .bind (.ofExcept fun _ _ => trivial) fun id => ?_
  cases isEc with
  | true =>
      refine .bind (.bind (opening id) fun _ => .returning) fun k => ?_
      exact .bind (.ofExcept fun _ _ => trivial) fun dn => EcKey.makeCsr_confined permits_inward
  | false =>
      refine .bind (.bind (opening id) fun _ => .returning) fun k => ?_
      exact .bind (.ofExcept fun _ _ => trivial) fun dn => RsaKey.makeCsr_confined permits_inward

/-- The same invocation with an output file. -/
def Args.withOut (a : Args) (f : String) : Args := { a with opt := a.opt.set "--out" f }

theorem Args.withOut_get {f k : String} (apart : k ≠ "--out") : (a.withOut f).get k = a.get k := by
  simp only [get, withOut, Options.set, Function.update_of_ne apart]

theorem Args.withOut_out {f : String} : (a.withOut f).get "--out" = f := by
  simp only [get, withOut, Options.set, Function.update_self, Option.getD_some]

theorem csrText_withOut {f : String} :
    csrText mbedtls target isEc (a.withOut f) = csrText mbedtls target isEc a := by
  have id : parseId target (a.withOut f) = parseId target a := by
    rw [parseId, parseId, Args.withOut_get (by decide)]
  have dn : subject (a.withOut f) = subject a := by
    rw [subject, subject, Args.withOut_get (by decide)]
  rw [csrText, csrText, id, dn]

/-- On success the PEM writer leaves the text and a terminator, and counts both. -/
def PemTerminated (mbedtls : Mbedtls) : Prop :=
  ∀ header footer der capacity pem olen,
    mbedtls.pemWriteBuffer header footer der capacity = some (pem, olen) →
      ∃ rest, pem = pemText header footer der ++ 0 :: rest ∧
        olen = (pemText header footer der).length + 1

theorem toPem_terminated (terminated : PemTerminated mbedtls) {der text : Bytes}
    (encoded : toPem mbedtls der = .ok text) : text = pemText pemHeader pemFooter der ++ [0] := by
  rw [toPem] at encoded
  split at encoded
  · cases encoded
  · rename_i pem olen written
    obtain ⟨rest, rfl, rfl⟩ := terminated _ _ _ _ _ _ written
    cases encoded
    rw [List.take_append]
    simp

/-- The DER of the request a run of `csrText` made. -/
def Requested (mbedtls : Mbedtls) (target : Target) (isEc : Bool) (a : Args) (der : Bytes) : Prop :=
  ∃ dn spki cri signature, subject a = .ok dn ∧ buildCri mbedtls dn spki = .ok cri ∧
    assembleDer mbedtls target cri signature isEc = .ok der

theorem named_requested (terminated : PemTerminated mbedtls) {source : Cpp Bytes}
    {sign : Bytes → Cpp Bytes} {making : List (Event host)} {text : Bytes}
    (made : (liftExcept (subject a) >>= fun dn => source >>= fun spki =>
      makeCsrImpl mbedtls target dn spki sign isEc : Cpp Bytes).run.Runs making (.ok text)) :
    ∃ der, Requested mbedtls target isEc a der ∧
      text = pemText pemHeader pemFooter der ++ [0] := by
  obtain ⟨_, _, dn, rfl, named, exporting⟩ := Program.runs_throwing_bind_ok made
  obtain ⟨_, _, spki, rfl, _, requesting⟩ := Program.runs_throwing_bind_ok exporting
  obtain ⟨cri, _, signature, der, built, _, _, assembled, encoded⟩ := makeCsrImpl_steps requesting
  have same := (Program.runs_liftExcept_iff.mp named).2
  exact ⟨der, ⟨dn, spki, cri, signature, same.symm, built, assembled⟩,
    toPem_terminated terminated encoded⟩

theorem csrText_requested (terminated : PemTerminated mbedtls) {making : List (Event host)}
    {text : Bytes} (made : (csrText mbedtls target isEc a).run.Runs making (.ok text)) :
    ∃ der, Requested mbedtls target isEc a der ∧
      text = pemText pemHeader pemFooter der ++ [0] := by
  obtain ⟨_, _, _, rfl, _, opening⟩ := Program.runs_throwing_bind_ok made
  cases isEc with
  | true =>
      obtain ⟨_, _, _, rfl, _, naming⟩ := Program.runs_throwing_bind_ok opening
      exact named_requested terminated naming
  | false =>
      obtain ⟨_, _, _, rfl, _, naming⟩ := Program.runs_throwing_bind_ok opening
      exact named_requested terminated naming

theorem emitText_stored {text : Bytes} {trace : List (Event host)} {rc : Nat}
    (named : a.get "--out" ≠ "")
    (run : (emitText a text >>= fun _ => pure rc : Cpp Nat).run.Runs trace (.ok rc)) :
    stored trace = text := by
  obtain ⟨_, _, _, rfl, emitted, last⟩ := Program.runs_throwing_bind_ok run
  obtain ⟨rfl, _⟩ := Program.runs_pure_iff.mp last
  rw [emitText, if_pos named] at emitted
  obtain ⟨_, _, _, rfl, filed, shown⟩ := Program.runs_throwing_bind_ok emitted
  obtain ⟨_, rest, rfl, ended⟩ := Program.runs_call_iff.mp shown
  obtain ⟨rfl, _⟩ := Program.runs_done_iff.mp ended
  obtain ⟨opened, rest, rfl, checked⟩ := Program.runs_call_iff.mp filed
  cases opened with
  | false => cases (Program.runs_done_iff.mp checked).2
  | true =>
      obtain ⟨rfl, _⟩ := Program.runs_done_iff.mp checked
      exact List.append_nil text

theorem emitText_printed {text : Bytes} {trace : List (Event host)} {rc : Nat}
    (plain : a.get "--out" = "")
    (run : (emitText a text >>= fun _ => pure rc : Cpp Nat).run.Runs trace (.ok rc)) :
    printed trace = text.takeWhile (· ≠ 0) := by
  obtain ⟨_, _, _, rfl, emitted, last⟩ := Program.runs_throwing_bind_ok run
  obtain ⟨rfl, _⟩ := Program.runs_pure_iff.mp last
  rw [emitText, if_neg (not_not.mpr plain)] at emitted
  obtain ⟨_, rest, rfl, ended⟩ := Program.runs_call_iff.mp emitted
  obtain ⟨rfl, _⟩ := Program.runs_done_iff.mp ended
  exact List.append_nil _

section Outputs

variable {f : String} {making filing printing : List (Event host)} {text : Bytes}

theorem csr_outputs (terminated : PemTerminated mbedtls) (csr : a.command = "csr")
    (plain : a.get "--out" = "") (named : f ≠ "")
    (made : (csrText mbedtls target isEc a).run.Runs making (.ok text))
    (filed : (csrCommand mbedtls target isEc (a.withOut f)).run.Runs (making ++ filing) (.ok 0))
    (shown : (csrCommand mbedtls target isEc a).run.Runs (making ++ printing) (.ok 0)) :
    ∃ der, Requested mbedtls target isEc a der ∧
      stored (making ++ filing) = pemText pemHeader pemFooter der ++ [0] ∧
      printed (making ++ printing) = pemText pemHeader pemFooter der := by
  obtain ⟨der, requested, rfl⟩ := csrText_requested terminated made
  have inward : ∀ event ∈ making, Inward event.request :=
    fun _ issued => csrText_inward.allowed made issued
  rw [stored_inward inward, printed_inward inward]
  have command : (a.withOut f).command = "csr" := csr
  rw [csrCommand_eq csr] at shown
  rw [csrCommand_eq command, csrText_withOut] at filed
  refine ⟨der, requested, ?_, ?_⟩
  · exact emitText_stored (Args.withOut_out.trans_ne named) (made.throwing_rest filed)
  · rw [emitText_printed plain (made.throwing_rest shown)]
    exact takeWhile_terminated pemText_ne_zero

theorem append_zero_ne {text : Bytes} : text ++ [0] ≠ text := by
  intro same
  have lengths := congrArg List.length same
  rw [List.length_append] at lengths
  exact absurd lengths (Nat.succ_ne_self _)

/-- The two outputs of a request are never the same: the file gets the terminator too. -/
theorem csr_output_differs (terminated : PemTerminated mbedtls) (csr : a.command = "csr")
    (plain : a.get "--out" = "") (named : f ≠ "")
    (made : (csrText mbedtls target isEc a).run.Runs making (.ok text))
    (filed : (csrCommand mbedtls target isEc (a.withOut f)).run.Runs (making ++ filing) (.ok 0))
    (shown : (csrCommand mbedtls target isEc a).run.Runs (making ++ printing) (.ok 0)) :
    ∃ der, Requested mbedtls target isEc a der ∧
      stored (making ++ filing) = pemText pemHeader pemFooter der ++ [0] ∧
      printed (making ++ printing) = pemText pemHeader pemFooter der ∧
      stored (making ++ filing) ≠ printed (making ++ printing) := by
  obtain ⟨der, requested, file, output⟩ := csr_outputs terminated csr plain named made filed shown
  refine ⟨der, requested, file, output, ?_⟩
  rw [file, output]
  exact append_zero_ne

end Outputs

section Example

def demoArgs : Args :=
  parseArgs ["se05x_crypto_app", "ecc", "csr", "--id", "0x10", "--subject", "CN=SE051-Demo"]

def demoSignature : Filled 256 :=
  ⟨[0x30, 0x06, 0x02, 0x01, 0x01, 0x02, 0x01, 0x01], by decide⟩

def openedKey : EcKey := ⟨.existing 0x10, .sha256, .nistP256, false⟩

def demoMaking : List (Event host) :=
  [⟨.sss .keyObjectInit, .success⟩, ⟨.sss (.keyObjectGetHandle 0x10), .success⟩] ++
    ([⟨.allocate 256, .granted⟩,
      ⟨.sss (.keyStoreGetKey (.existing 0x10) 256),
        (.success, ⟨Mbedtls.demoSpki, by decide⟩)⟩] ++
    [⟨.sss (.asymmetricContextInit ⟨.existing 0x10, .sha256, .sign⟩), .success⟩,
      ⟨.allocate 256, .granted⟩,
      ⟨.sss (.asymmetricSignDigest ⟨.existing 0x10, .sha256, .sign⟩ Mbedtls.demoDigest.toList 256),
        (.success, demoSignature)⟩,
      ⟨.sss (.asymmetricContextFree (some ⟨.existing 0x10, .sha256, .sign⟩)), ()⟩])

theorem demo_terminated : PemTerminated Mbedtls.demo := by
  intro header footer der capacity pem olen written
  obtain ⟨_, same⟩ := Option.ite_none_right_eq_some.mp written
  cases same
  exact ⟨_, rfl, rfl⟩

theorem demo_making :
    ∃ text, (csrText Mbedtls.demo .aarch64 true demoArgs).run.Runs demoMaking (.ok text) := by
  have opening : (EcKey.open 0x10).run.Runs [⟨.sss .keyObjectInit, .success⟩,
      ⟨.sss (.keyObjectGetHandle 0x10), .success⟩] (.ok openedKey) := .call (.call .done)
  have exporting : openedKey.publicKeyDer.run.Runs [⟨.allocate 256, .granted⟩,
      ⟨.sss (.keyStoreGetKey (.existing 0x10) 256), (.success, ⟨Mbedtls.demoSpki, by decide⟩)⟩]
      (.ok Mbedtls.demoSpki) := .call (.call .done)
  have signing : (openedKey.sign Mbedtls.demoDigest.toList).run.Runs
      [⟨.sss (.asymmetricContextInit ⟨.existing 0x10, .sha256, .sign⟩), .success⟩,
        ⟨.allocate 256, .granted⟩,
        ⟨.sss (.asymmetricSignDigest ⟨.existing 0x10, .sha256, .sign⟩ Mbedtls.demoDigest.toList 256),
          (.success, demoSignature)⟩,
        ⟨.sss (.asymmetricContextFree (some ⟨.existing 0x10, .sha256, .sign⟩)), ()⟩]
      (.ok demoSignature.val) := .call (.call (.call (.call .done)))
  have making : ∃ text, (makeCsrImpl Mbedtls.demo .aarch64 Mbedtls.demoSubject Mbedtls.demoSpki
      openedKey.sign true).run.Runs _ (.ok text) :=
    ⟨_, makeCsrImpl_returns Mbedtls.demo_documented Mbedtls.demo_failsOnlyFull
      Mbedtls.demo_pemDocumented demo_parses demo_fits (Mbedtls.demo_sha256Ret _) signing (by decide)⟩
  obtain ⟨text, made⟩ := making
  exact ⟨text, opening.throwing_bind (exporting.throwing_bind made)⟩

theorem demo_outputs {text : Bytes}
    (made : (csrText Mbedtls.demo .aarch64 true demoArgs).run.Runs demoMaking (.ok text)) :
    (csrCommand Mbedtls.demo .aarch64 true (demoArgs.withOut "csr.pem")).run.Runs
        (demoMaking ++ [⟨.writeFile "csr.pem" text, true⟩,
          ⟨.printError "[+] wrote csr.pem\n", ()⟩]) (.ok 0) ∧
      (csrCommand Mbedtls.demo .aarch64 true demoArgs).run.Runs
        (demoMaking ++ [⟨.printOut (text.takeWhile (· ≠ 0)), ()⟩]) (.ok 0) := by
  have filing : (demoArgs.withOut "csr.pem").get "--out" = "csr.pem" := by decide
  have printing : demoArgs.get "--out" = "" := by decide
  constructor
  · rw [csrCommand_eq (by decide), csrText_withOut]
    refine made.throwing_bind ?_
    rw [emitText, filing]
    exact .call (.call .done)
  · rw [csrCommand_eq (by decide)]
    refine made.throwing_bind ?_
    rw [emitText, printing]
    exact .call .done

/-- The demo request with and without an output file. -/
theorem csr_output_differs_demo :
    ∃ making filing printing der,
      (csrCommand Mbedtls.demo .aarch64 true (demoArgs.withOut "csr.pem")).run.Runs
        (making ++ filing) (.ok 0) ∧
      (csrCommand Mbedtls.demo .aarch64 true demoArgs).run.Runs (making ++ printing) (.ok 0) ∧
      stored (making ++ filing) = pemText pemHeader pemFooter der ++ [0] ∧
      printed (making ++ printing) = pemText pemHeader pemFooter der ∧
      stored (making ++ filing) ≠ printed (making ++ printing) := by
  obtain ⟨text, made⟩ := demo_making
  obtain ⟨filed, shown⟩ := demo_outputs made
  obtain ⟨der, _, differs⟩ :=
    csr_output_differs demo_terminated (by decide) (by decide) (by decide) made filed shown
  exact ⟨demoMaking, _, _, der, filed, shown, differs⟩

/-- Both runs succeed, and the file is one byte longer than the terminal output. -/
theorem csr_file_is_not_the_output :
    ¬ ∀ (making filing printing : List (Event host)) (text : Bytes),
      (csrText Mbedtls.demo .aarch64 true demoArgs).run.Runs making (.ok text) →
      (csrCommand Mbedtls.demo .aarch64 true (demoArgs.withOut "csr.pem")).run.Runs
        (making ++ filing) (.ok 0) →
      (csrCommand Mbedtls.demo .aarch64 true demoArgs).run.Runs (making ++ printing) (.ok 0) →
        stored (making ++ filing) = printed (making ++ printing) := by
  intro same
  obtain ⟨text, made⟩ := demo_making
  obtain ⟨filed, shown⟩ := demo_outputs made
  obtain ⟨der, _, file, output⟩ :=
    csr_outputs demo_terminated (by decide) (by decide) (by decide) made filed shown
  have equal := same _ _ _ _ made filed shown
  rw [file, output] at equal
  exact append_zero_ne equal

end Example

end Se05x.CppApp
