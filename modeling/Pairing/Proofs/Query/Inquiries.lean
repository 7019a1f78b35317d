/-
**What a context is asked during a keystroke.**

A context may be looked at by its fields, by its methods and by conditions, in any order and as often as one
likes. What the host answers about the language, the span and the scopes is kept, and nothing of this shows:

* `Query.member_isOrderly`, `Query.invoke_isOrderly`, `Query.ofSource_isOrderly`: what asks through what is
  kept;
* `HostFunction.comparing_isOrderly`, `HostFunction.calling_isOrderly`: so do the functions of a host that look
  at a field or call a method;
* `Oracle.ofTable_gives`: a host with an index always gives the same answers, if no question fails;
* `Inquiry`: a look at a field, a call of a method, or a condition;
* `Inquiry.runAll`: one inquiry after the other, each with what was learned before;
* `Inquiry.runAll_asksOnce`: each answers what it answers of a fresh context, and no answer that is kept was
  asked for twice.
-/

import Pairing.HostFunction.Asking
import Pairing.Proofs.Condition.Orderly

namespace Pairing

namespace Query

/-! ### Members -/

theorem told_isOrderly {predicate : Predicate} (orderly : predicate.IsOrderly) : (told predicate).IsOrderly :=
  orderly.bind fun _ => .pure _

section Scopes

variable {φ : Type} [Callable φ]

theorem scopeTold_isOrderly (scopes : Data φ) (scope : Option Text) : (scopeTold scopes scope).IsOrderly := by
  cases scope with
  | none => exact .pure _
  | some name => exact .ofExcept _

theorem scopesTold_isOrderly (scopes place : Data φ) : (scopesTold scopes place).IsOrderly := by
  have here := IsOrderly.scopeHere.bind (scopeTold_isOrderly scopes)
  have before := IsOrderly.scopeBefore.bind (scopeTold_isOrderly scopes)
  unfold scopesTold
  split
  · exact .pure _
  · exact here
  · exact before
  · exact here.bind fun _ => .ite (.pure _) before

end Scopes

theorem unmatchedMethod_isOrderly {find : Delimiters → Query (Option Unmatched)}
    (orderly : ∀ delimiters, (find delimiters).IsOrderly) (args : Nat → Data Unit) :
    (unmatchedMethod find args).IsOrderly := by
  unfold unmatchedMethod
  dsimp only
  split
  · exact .throw _
  · split
    · exact (orderly _).bind fun _ => .pure _
    · exact .throw _
    · exact .throw _

theorem fields_areOrderly : ∀ field ∈ fields, field.2.IsOrderly := by
  simp only [fields, List.forall_mem_cons]
  exact ⟨.ofContext _, .ofContext _, .map .language _, .map .spanKind _, .ofContext _, .ofContext _,
    .ofContext _, .ofContext _, .ofContext _, .ofContext _, .pure _, .pure _, List.forall_mem_nil _⟩

theorem methods_areOrderly : ∀ method ∈ methods, ∀ args, (method.2 args).IsOrderly := by
  simp only [methods, List.forall_mem_cons]
  have beside (reach : Context → Data Unit → Except Thrown (Data Unit))
      (test : Context → Text → Bool → Except Fault Bool) (args : Nat → Data Unit) :
      (besideMethod reach test args).IsOrderly :=
    told_isOrderly (Predicate.ofTextOperand_isOrderly _ _ _)
  have scope (place : Data Unit → Data Unit) (args : Nat → Data Unit) : (scopeMethod place args).IsOrderly :=
    .ite (.pure _) (scopesTold_isOrderly _ _)
  exact ⟨fun _ => .ofExcept _, fun _ => .ofExcept _, fun _ => .ofExcept _, beside _ _, beside _ _,
    fun _ => .ofContext _, fun _ => told_isOrderly (Predicate.ofLanguageOperand_isOrderly _),
    fun _ => told_isOrderly (Predicate.ofSpanOperand_isOrderly _), scope _,
    fun _ => told_isOrderly (Predicate.negation_isOrderly (Predicate.ofScopeOperand_isOrderly _ _)), scope _,
    unmatchedMethod_isOrderly .unmatchedOpening, unmatchedMethod_isOrderly .unmatchedClosing,
    fun _ => .ofContext _, fun _ => .ofContext _, fun _ => .map .language _, fun _ => .map .spanKind _,
    fun _ => .map .scopeHere _, fun _ => .map .scopeBefore _, fun _ => .pure _, fun _ => .pure _,
    fun _ => .pure _, fun _ => .pure _, fun _ => .ofExcept _, fun _ => .ofExcept _, List.forall_mem_nil _⟩

/-- What is found under a name is one of the members. -/
theorem exists_mem_of_named? {α : Type} {name : Text} {members : List (String × α)} {value : α}
    (found : named? name members = some value) : ∃ known, (known, value) ∈ members := by
  obtain ⟨⟨known, _⟩, first, rfl⟩ := Option.map_eq_some_iff.mp found
  exact ⟨known, List.mem_of_find?_eq_some first⟩

/-- What a context has under a name asks through what is kept. -/
theorem member_isOrderly (name : Text) : (member name).IsOrderly := by
  unfold member
  split
  · next value found =>
    obtain ⟨_, isField⟩ := exists_mem_of_named? found
    exact fields_areOrderly _ isField
  · refine .ite (.pure _) ?_
    split <;> exact .pure _

/-- So does what is called under a name. -/
theorem invoke_isOrderly (name : Text) (args : List (Data Unit)) : (invoke name args).IsOrderly := by
  unfold invoke
  split
  · next method found =>
    obtain ⟨_, isMethod⟩ := exists_mem_of_named? found
    exact methods_areOrderly _ isMethod _
  · split
    · next value found =>
      obtain ⟨_, isField⟩ := exists_mem_of_named? found
      exact (fields_areOrderly _ isField).bind fun _ => .throw _
    · exact .throw _

/-- So does a condition, if it is no function that asks in another way. -/
theorem ofSource_isOrderly {source : Data HostFunction} {query : Query (Data Unit)}
    (orderly : ∀ body, source = .function body → body.answer.IsOrderly)
    (compiled : ofSource source = .ok query) : query.IsOrderly := by
  have ofPredicate (declarative : ∀ body, source ≠ .function body)
      (compiled : (Predicate.ofSource source).map told = .ok query) : query.IsOrderly := by
    obtain ⟨predicate, isPredicate, rfl⟩ := exists_of_map_eq_ok compiled
    exact told_isOrderly (Predicate.ofSource_isOrderly declarative isPredicate)
  cases source with
  | function body =>
    obtain rfl := Except.ok.inj compiled
    exact orderly body rfl
  | record fields =>
    rw [ofSource] at compiled
    split at compiled
    · obtain rfl := Except.ok.inj compiled
      exact scopesTold_isOrderly _ _
    · exact ofPredicate (fun _ isFunction => by cases isFunction) compiled
  | _ => exact ofPredicate (fun _ isFunction => by cases isFunction) compiled

/-- A steady query comes to what it comes to in a fresh context. -/
theorem IsSteady.run'_eq_eval {α : Type} {query : Query α} {ctx : Context} {answers : Answers} {memo : Memo}
    (steady : query.IsSteady ctx answers) (fit : answers.Fit ctx memo) :
    (query.run' ctx memo).1 = query.eval ctx := by
  obtain ⟨outcome, same⟩ := steady
  obtain ⟨_, run, -⟩ := same memo fit
  obtain ⟨_, runFresh, -⟩ := same {} (answers.fit_empty ctx)
  rw [eval, run, runFresh]

end Query

/-! ### Functions of a host -/

theorem HostFunction.comparing_isOrderly (field : Text) (expected : Data Unit) :
    (comparing field expected).answer.IsOrderly :=
  (Query.member_isOrderly field).bind fun _ => .pure _

theorem HostFunction.calling_isOrderly (method : Text) (args : List (Data Unit)) :
    (calling method args).answer.IsOrderly :=
  Query.invoke_isOrderly method args

/-! ### Hosts with an index -/

/-- What an index answers where no question fails. -/
def OracleTable.answers (table : OracleTable) : Answers where
  unmatchedOpening delimiters _ := table.openings.find? (·.delimiters == delimiters)
  unmatchedClosing delimiters _ := table.closings.find? (·.delimiters == delimiters)
  spanKind := nameAt table.spans
  scope := nameAt table.scopes
  language place := table.languages.bind fun languages => nameAt languages place

theorem Oracle.ofTable_gives {table : OracleTable} (neverFails : table.failures = []) :
    (Oracle.ofTable table).Gives table.answers := by
  have answered {α : Type} (question : OracleQuestion) (value : α) : table.answer question value = .ok value := by
    rw [OracleTable.answer, neverFails, List.find?_nil]
  refine ⟨fun _ _ _ => answered _ _, fun _ _ _ => answered _ _, fun _ _ => answered _ _,
    fun _ _ => answered _ _, fun answer knows earlier place => ?_, fun unknown place => ?_⟩
  · obtain ⟨languages, areKnown, rfl⟩ := Option.map_eq_some_iff.mp knows
    have known : table.answers.language place = nameAt languages place := by
      show table.languages.bind _ = _
      rw [areKnown, Option.bind_some]
    rw [known]
    exact answered _ _
  · show table.languages.bind _ = _
    rw [Option.map_eq_none_iff.mp unknown, Option.bind_none]

/-! ### Inquiries -/

/-- What a context may be asked during a keystroke. -/
inductive Inquiry where
  /-- A field is looked at. -/
  | field (name : Text)
  /-- A method is called. -/
  | call (name : Text) (args : List (Data Unit))
  /-- A condition is evaluated, as it was compiled. If it is a function, it asks the context. -/
  | condition (source : Data HostFunction) (query : Query (Data Unit))
      (compiled : Query.ofSource source = .ok query)
      (orderly : ∀ body, source = .function body → body.answer.IsOrderly)

namespace Inquiry

/-- What is computed for an inquiry. -/
def query : Inquiry → Query (Data Unit)
  | .field name => Query.member name
  | .call name args => Query.invoke name args
  | .condition _ query _ _ => query

/-- The outcomes of some inquiries, one after the other, and what is known after them. One that fails keeps
no other from being made. -/
def runAll (ctx : Context) : List Inquiry → Memo → List (Except Fault (Data Unit)) × Memo
  | [], memo => ([], memo)
  | inquiry :: rest, memo =>
    let first := inquiry.query.run' ctx memo
    let others := runAll ctx rest first.2
    (first.1 :: others.1, others.2)

theorem query_isOrderly (inquiry : Inquiry) : inquiry.query.IsOrderly := by
  cases inquiry with
  | field name => exact Query.member_isOrderly name
  | call name args => exact Query.invoke_isOrderly name args
  | condition source query compiled orderly => exact Query.ofSource_isOrderly orderly compiled

/-- Inquiries answer what they answer of a fresh context, and leave what is known accounted for. -/
theorem runAll_spec {ctx : Context} {answers : Answers} (gives : ctx.oracle.Gives answers)
    (inquiries : List Inquiry) {memo : Memo} (fit : answers.Fit ctx memo) (accounted : memo.IsAccounted ctx) :
    (runAll ctx inquiries memo).1 = inquiries.map (fun inquiry => inquiry.query.eval ctx) ∧
      (runAll ctx inquiries memo).2.IsAccounted ctx := by
  induction inquiries generalizing memo with
  | nil => exact ⟨rfl, accounted⟩
  | cons inquiry rest ih =>
    have steady := inquiry.query_isOrderly.isSteady gives
    obtain ⟨others, accountedLast⟩ :=
      ih (steady.keeps memo fit) (inquiry.query_isOrderly.keepsAccounts gives memo accounted)
    refine ⟨?_, accountedLast⟩
    rw [runAll, List.map_cons, others, steady.run'_eq_eval fit]

/-- **The order of questions makes no difference.** Whatever a context is asked and in whatever order, every inquiry
answers what it answers of a fresh context, and the host is asked for the language, for the span and for either scope
at most once. -/
theorem runAll_asksOnce {snapshot : Snapshot} {oracle : Oracle} {answers : Answers}
    (gives : oracle.Gives answers) (inquiries : List Inquiry) :
    let ctx := Context.ofSnapshot snapshot oracle
    ctx.cursor = ⟨snapshot.cursor.line, min (max 0 snapshot.cursor.column) snapshot.lineText.length⟩ ∧
      (runAll ctx inquiries {}).1 = inquiries.map (fun inquiry => inquiry.query.eval ctx) ∧
      ctx.AsksOnce (runAll ctx inquiries {}).2.calls := by
  intro ctx
  have given : ctx.oracle.Gives answers := gives
  obtain ⟨outcomes, accounted⟩ :=
    runAll_spec given inquiries (answers.fit_empty ctx) (Memo.isAccounted_empty ctx)
  refine ⟨?_, outcomes, accounted.asksOnce⟩
  have column : (ctx.column : Int) = min (max 0 snapshot.cursor.column) snapshot.lineText.length := by
    show ((snapshot.lineText.take snapshot.cursor.column.toNat).length : Int) = _
    rw [List.length_take]
    omega
  rw [Context.cursor, column]
  rfl

/-- A line of code with blanks behind a bracket, and a cursor beyond its end. -/
def atTrailingBlanks : Snapshot where
  lineText := "x = (  "
  cursor := ⟨3, 40⟩
  filetype := "text"
  mode := .insert
  indentUnit := none

/-- An index of that line. -/
def indexOfTrailingBlanks : OracleTable where
  spans := [⟨3, 4, 9, "parentheses"⟩]
  scopes := [⟨3, 4, 5, "punctuation"⟩]
  languages := some [⟨3, 0, 9, "typescript"⟩]
  openings := []
  closings := []
  failures := []

/-- The same things asked again and again, by name, by conditions, and by functions. -/
def repeatedInquiries : List Inquiry :=
  [.call "scopeBlacklist" [.list [.text "comment"], .text "insideOrAfter"],
    .field "language",
    .condition (.function (.comparing "language" (.text "typescript"))) _ rfl
      (by rintro _ ⟨⟩; exact HostFunction.comparing_isOrderly _ _),
    .condition (.list [.record [("inSpan", .text "parentheses")],
        .record [("scopeWhitelist", .list [.text "punctuation"]), ("position", .text "after")]]) _ rfl
      (by rintro _ ⟨⟩),
    .condition (.function (.calling "inSpan" [.text "string"])) _ rfl
      (by rintro _ ⟨⟩; exact HostFunction.calling_isOrderly _ _),
    .call "isAfterCursor" [.text ""],
    .call "scopeWhitelist" [.list [.text "punctuation"], .text "insideOrAfter"]]

/-- Seven inquiries need four answers of the host. -/
theorem runAll_asksOnce_trailingBlanks :
    let ctx := Context.ofSnapshot atTrailingBlanks (Oracle.ofTable indexOfTrailingBlanks)
    (runAll ctx repeatedInquiries {}).1 = repeatedInquiries.map (fun inquiry => inquiry.query.eval ctx) ∧
      ctx.AsksOnce (runAll ctx repeatedInquiries {}).2.calls ∧
      (runAll ctx repeatedInquiries {}).2.calls =
        [.scope ⟨3, 7⟩, .scope ⟨3, 4⟩, .language ⟨3, 7⟩, .spanKind ⟨3, 7⟩] := by
  intro ctx
  have gives : (Oracle.ofTable indexOfTrailingBlanks).Gives _ := Oracle.ofTable_gives rfl
  obtain ⟨-, outcomes, asksOnce⟩ := @runAll_asksOnce atTrailingBlanks _ _ gives repeatedInquiries
  exact ⟨outcomes, asksOnce, by decide +kernel⟩

end Inquiry

end Pairing
