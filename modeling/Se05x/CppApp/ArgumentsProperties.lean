import Mathlib.Data.List.Nodup
import Mathlib.Data.List.Perm.Basic
import Se05x.CppApp.Arguments

/-!
# Arguments in any order

A command line is made of pieces: a positional token, an option with its value, or the
flag. The parser finds the pieces again whatever the values look like.
-/

set_option autoImplicit false

namespace Se05x.CppApp

inductive Piece where
  | positional (token : String)
  | option (key value : String)
  | force
deriving DecidableEq, Repr

namespace Piece

def tokens : Piece → List String
  | .positional token => [token]
  | .option key value => [key, value]
  | .force => ["--force"]

def token? : Piece → Option String
  | .positional token => some token
  | .option _ _ | .force => none

/-- What the piece adds to the option map. -/
def binding? : Piece → Option (String × String)
  | .positional _ => none
  | .option key value => some (key, value)
  | .force => some ("--force", "1")

/-- Only the first token of the piece says what it is; a value may be any string. -/
def Proper : Piece → Prop
  | .positional token => isOption token = false
  | .option key _ => isOption key = true ∧ key ≠ "--force"
  | .force => True

end Piece

def Options.setAll (opt : Options) (bindings : List (String × String)) : Options :=
  bindings.foldl (fun opt binding => opt.set binding.1 binding.2) opt

theorem Options.setAll_eq_some_iff {opt : Options} {bindings : List (String × String)}
    {key value : String} (distinct : (bindings.map Prod.fst).Nodup) :
    opt.setAll bindings key = some value ↔
      (key, value) ∈ bindings ∨ key ∉ bindings.map Prod.fst ∧ opt key = some value := by
  induction bindings generalizing opt with
  | nil => simp [setAll]
  | cons binding rest ih =>
      obtain ⟨first, given⟩ := binding
      rw [List.map_cons, List.nodup_cons] at distinct
      obtain ⟨fresh, distinct⟩ := distinct
      change (opt.set first given).setAll rest key = some value ↔ _
      rw [ih distinct, set, List.map_cons, List.mem_cons, List.mem_cons, not_or, Prod.mk.injEq]
      by_cases same : key = first
      · subst same
        have unbound : (key, value) ∉ rest := fun member =>
          fresh (List.mem_map.mpr ⟨_, member, rfl⟩)
        rw [Function.update_self]
        simp [fresh, unbound, eq_comm]
      · rw [Function.update_of_ne same]
        simp [same]

section Scanning

variable {opt : Options} {pos rest : List String} {t : String}

theorem scanTokens_positional (plain : isOption t = false) :
    scanTokens opt pos (t :: rest) = scanTokens opt (pos ++ [t]) rest := by
  cases rest <;> simp only [scanTokens, plain, Bool.false_eq_true, ↓reduceIte]

theorem scanTokens_force :
    scanTokens opt pos ("--force" :: rest) = scanTokens (opt.set "--force" "1") pos rest := by
  have marked : isOption "--force" = true := by decide
  cases rest <;> simp only [scanTokens, marked, ↓reduceIte]

end Scanning

/-- The loop finds the pieces again. -/
theorem scanTokens_pieces {pieces : List Piece} {opt : Options} {pos : List String}
    (proper : ∀ piece ∈ pieces, piece.Proper) :
    scanTokens opt pos (pieces.flatMap Piece.tokens) =
      (opt.setAll (pieces.filterMap Piece.binding?), pos ++ pieces.filterMap Piece.token?) := by
  induction pieces generalizing opt pos with
  | nil => exact Prod.ext rfl (List.append_nil pos).symm
  | cons piece rest ih =>
      obtain ⟨first, others⟩ := List.forall_mem_cons.mp proper
      cases piece with
      | positional token =>
          change scanTokens opt pos (token :: rest.flatMap Piece.tokens) = _
          rw [scanTokens_positional first, ih others, List.append_assoc]
          rfl
      | option key value =>
          obtain ⟨marked, valued⟩ := first
          change scanTokens opt pos (key :: value :: rest.flatMap Piece.tokens) = _
          rw [scanTokens, marked, if_pos rfl, if_neg valued, ih others]
          rfl
      | force =>
          change scanTokens opt pos ("--force" :: rest.flatMap Piece.tokens) = _
          rw [scanTokens_force, ih others]
          rfl

/-- The pieces are the positional tokens in their order, the options, and the flag or not. -/
structure Interleaves (positionals : List String) (options : List (String × String))
    (forced : Bool) (pieces : List Piece) : Prop where
  same : pieces.Perm (positionals.map .positional ++
    (options.map (fun option => .option option.1 option.2) ++ if forced then [.force] else []))
  ordered : pieces.filterMap Piece.token? = positionals

section Interleaving

variable {positionals : List String} {options : List (String × String)} {forced : Bool}
  {pieces other : List Piece}

/-- The flag is kept in the map under its own name. -/
def flagged (options : List (String × String)) (forced : Bool) : List (String × String) :=
  options ++ if forced then [("--force", "1")] else []

theorem Interleaves.bindings (interleaves : Interleaves positionals options forced pieces) :
    (pieces.filterMap Piece.binding?).Perm (flagged options forced) := by
  have bound := interleaves.same.filterMap Piece.binding?
  have tokens : (positionals.map Piece.positional).filterMap Piece.binding? = [] := by
    simp [Piece.binding?]
  have pairs : (options.map fun option => Piece.option option.1 option.2).filterMap Piece.binding? =
      options := by
    simp [List.filterMap_map, Function.comp_def, Piece.binding?]
  rw [List.filterMap_append, List.filterMap_append, tokens, pairs, List.nil_append] at bound
  cases forced with
  | false => exact bound
  | true => exact bound

theorem Interleaves.proper (interleaves : Interleaves positionals options forced pieces)
    (plain : ∀ token ∈ positionals, isOption token = false)
    (keyed : ∀ option ∈ options, isOption option.1 = true ∧ option.1 ≠ "--force") :
    ∀ piece ∈ pieces, piece.Proper := by
  intro piece member
  have found := interleaves.same.mem_iff.mp member
  rw [List.mem_append, List.mem_append, List.mem_map, List.mem_map] at found
  obtain ⟨token, listed, rfl⟩ | ⟨option, listed, rfl⟩ | flag := found
  · exact plain token listed
  · exact keyed option listed
  · cases forced with
    | false => cases flag
    | true =>
        cases List.mem_singleton.mp flag
        trivial

theorem flagged_distinct (distinct : (options.map Prod.fst).Nodup)
    (keyed : ∀ option ∈ options, isOption option.1 = true ∧ option.1 ≠ "--force") :
    ((flagged options forced).map Prod.fst).Nodup := by
  cases forced with
  | false => simpa [flagged] using distinct
  | true =>
      rw [flagged, if_pos rfl, List.map_append, List.nodup_append]
      refine ⟨distinct, List.nodup_singleton _, ?_⟩
      intro key listed flag single same
      obtain ⟨option, member, rfl⟩ := List.mem_map.mp listed
      exact (keyed option member).2 (same.trans (List.mem_singleton.mp single))

theorem mem_flagged_iff {key value : String} : (key, value) ∈ flagged options forced ↔
    (key, value) ∈ options ∨ forced = true ∧ key = "--force" ∧ value = "1" := by
  rw [flagged, List.mem_append]
  cases forced with
  | false => simp
  | true => simp

/-- The map holds exactly what the pieces bind. -/
theorem Interleaves.opt_iff (interleaves : Interleaves positionals options forced pieces)
    (keyed : ∀ option ∈ options, isOption option.1 = true ∧ option.1 ≠ "--force")
    (distinct : (options.map Prod.fst).Nodup) {key value : String} :
    Options.setAll (fun _ => none) (pieces.filterMap Piece.binding?) key = some value ↔
      (key, value) ∈ flagged options forced := by
  have bound := interleaves.bindings
  have once : ((pieces.filterMap Piece.binding?).map Prod.fst).Nodup :=
    (bound.map Prod.fst).nodup_iff.mpr (flagged_distinct distinct keyed)
  rw [Options.setAll_eq_some_iff once, bound.mem_iff]
  simp

/-- The arguments that the positional tokens and the option map make. -/
theorem Interleaves.parseArgs_eq (interleaves : Interleaves positionals options forced pieces)
    (plain : ∀ token ∈ positionals, isOption token = false)
    (keyed : ∀ option ∈ options, isOption option.1 = true ∧ option.1 ≠ "--force")
    (program : String) :
    parseArgs (program :: pieces.flatMap Piece.tokens) =
      ⟨positionals[0]?.getD "", positionals[1]?.getD "",
        if positionals[0]?.getD "" = "rng" ∧ positionals[2]?.getD "" = "" then
          positionals[1]?.getD "" else positionals[2]?.getD "",
        Options.setAll (fun _ => none) (pieces.filterMap Piece.binding?)⟩ := by
  have scanned := @scanTokens_pieces pieces (fun _ => none) [] (interleaves.proper plain keyed)
  rw [interleaves.ordered, List.nil_append] at scanned
  rw [parseArgs, List.drop_one, List.tail_cons, scanned]

/-- Every order of the pieces is parsed to the same arguments: the first three positional
tokens, and exactly the given options with the flag. -/
theorem parseArgs_interleaved {program : String}
    (plain : ∀ token ∈ positionals, isOption token = false)
    (keyed : ∀ option ∈ options, isOption option.1 = true ∧ option.1 ≠ "--force")
    (distinct : (options.map Prod.fst).Nodup)
    (interleaves : Interleaves positionals options forced pieces) :
    (parseArgs (program :: pieces.flatMap Piece.tokens)).group = positionals[0]?.getD "" ∧
    (parseArgs (program :: pieces.flatMap Piece.tokens)).command = positionals[1]?.getD "" ∧
    (parseArgs (program :: pieces.flatMap Piece.tokens)).positional =
      (if positionals[0]?.getD "" = "rng" ∧ positionals[2]?.getD "" = "" then
        positionals[1]?.getD "" else positionals[2]?.getD "") ∧
    (∀ key value, (parseArgs (program :: pieces.flatMap Piece.tokens)).opt key = some value ↔
      (key, value) ∈ options ∨ forced = true ∧ key = "--force" ∧ value = "1") ∧
    ∀ again otherPieces, Interleaves positionals options forced otherPieces →
      parseArgs (again :: otherPieces.flatMap Piece.tokens) =
        parseArgs (program :: pieces.flatMap Piece.tokens) := by
  have parsed := interleaves.parseArgs_eq plain keyed program
  refine ⟨by rw [parsed], by rw [parsed], by rw [parsed], ?_, ?_⟩
  · intro key value
    rw [parsed]
    exact (interleaves.opt_iff keyed distinct).trans mem_flagged_iff
  · intro again otherPieces reordered
    have same : Options.setAll (fun _ => none) (otherPieces.filterMap Piece.binding?) =
        Options.setAll (fun _ => none) (pieces.filterMap Piece.binding?) := by
      funext key
      refine Option.ext fun value => ?_
      exact (reordered.opt_iff keyed distinct).trans (interleaves.opt_iff keyed distinct).symm
    rw [parsed, reordered.parseArgs_eq plain keyed again, same]

/-- Values that look like options and like the flag, in two orders. -/
theorem parseArgs_interleaved_lookalikes :
    ∃ a, parseArgs ["app", "--out", "--force", "rng", "--force", "--port", "--out", "16"] = a ∧
      parseArgs ["app", "rng", "16", "--port", "--out", "--out", "--force", "--force"] = a ∧
      a.group = "rng" ∧ a.positional = "16" ∧ a.get "--out" = "--force" ∧ a.flag "--force" = true := by
  have first : Interleaves ["rng", "16"] [("--out", "--force"), ("--port", "--out")] true
      [.option "--out" "--force", .positional "rng", .force, .option "--port" "--out",
        .positional "16"] := ⟨by decide, rfl⟩
  have second : Interleaves ["rng", "16"] [("--out", "--force"), ("--port", "--out")] true
      [.positional "rng", .positional "16", .option "--port" "--out", .option "--out" "--force",
        .force] := ⟨by decide, rfl⟩
  obtain ⟨group, _, positional, opt, same⟩ :=
    @parseArgs_interleaved _ _ _ _ "app" (by decide) (by decide) (by decide) first
  refine ⟨_, rfl, same "app" _ second, group, positional, ?_, ?_⟩
  · exact congrArg (fun found => found.getD "") ((opt "--out" "--force").mpr (.inl (by decide)))
  · exact congrArg Option.isSome ((opt "--force" "1").mpr (.inr ⟨rfl, rfl, rfl⟩))

end Interleaving

end Se05x.CppApp
