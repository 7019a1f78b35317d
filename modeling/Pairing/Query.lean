/-
**Asking about the editor.**

Several rules ask the same question during one keystroke. What the host answers about the language, the
span and the scopes at the cursor is kept, so that it is asked once.

* `Memo` — the answers kept so far, and the calls made.
* `Query` — a computation that may look at the context, ask the host, and fail. A failure keeps what
  was learned before it, and an answer that failed is not kept.
* `Query.language`, `Query.spanKind`, `Query.scopeHere`, `Query.scopeBefore` — the kept answers.
* `Query.isLanguage`, `Query.inSpan`, `Query.scopeMatches` — the questions that rules ask.
-/

import Pairing.Context
import Pairing.Kept
import Pairing.Language

namespace Pairing

/-- What is known about a context. -/
structure Memo where
  /-- The language at the cursor. -/
  language : Option (Option Text) := none
  /-- The kind of the span at the cursor. -/
  spanKind : Option (Option Text) := none
  /-- The scope at the cursor. -/
  scopeHere : Option (Option Text) := none
  /-- The scope at the last unit before the cursor that is not blank. -/
  scopeBefore : Option (Option Text) := none
  /-- The calls made to the host, the first one first. -/
  calls : List OracleCall := []
  deriving DecidableEq, Repr

/-- A computation over the context of a keystroke. -/
abbrev Query := ReaderT Context (ExceptT Fault (StateM Memo))

/-- A condition over the context of a keystroke. -/
abbrev Predicate := Query Bool

/-- Where a scope is looked for. -/
inductive ScopePlace where
  /-- At the cursor. -/
  | inside
  /-- At the last unit before the cursor that is not blank. -/
  | after
  /-- At either place. -/
  | insideOrAfter
  deriving DecidableEq, Repr

namespace Query

variable {α : Type}

/-- The outcome of a computation, and what is known after it. -/
def run' (query : Query α) (ctx : Context) (memo : Memo) : Except Fault α × Memo :=
  ((query.run ctx).run).run memo

/-- The outcome of a computation in a context of which nothing is known yet. -/
def eval (query : Query α) (ctx : Context) : Except Fault α :=
  (query.run' ctx {}).1

/-- A value that a function of the context gives. -/
def ofContext (f : Context → α) : Query α := do
  return f (← read)

/-- A value that a function of the context gives, or its failure. -/
def ofExcept (f : Context → Except Fault α) : Query α := do
  match f (← read) with
  | .ok value => return value
  | .error fault => throw fault

/-- Puts a question to the host. The call counts even if the answer fails. -/
def ask (call : OracleCall) (answer : List OracleCall → Except Fault α) : Query α := do
  let earlier := (← get).calls
  modify fun memo => { memo with calls := memo.calls ++ [call] }
  match answer earlier with
  | .ok value => return value
  | .error fault => throw fault

/-- The language at the cursor, when the host knows it. -/
def language : Query (Option Text) :=
  keep Memo.language (fun memo found => { memo with language := some found }) do
    let ctx ← read
    match ctx.oracle.language with
    | some answer => ask (.language ctx.cursor) fun earlier => answer earlier ctx.cursor
    | none => return none

/-- The kind of the span at the cursor. -/
def spanKind : Query (Option Text) :=
  keep Memo.spanKind (fun memo found => { memo with spanKind := some found }) do
    let ctx ← read
    ask (.spanKind ctx.cursor) fun earlier => ctx.oracle.spanKind earlier ctx.cursor

/-- The scope at the cursor. -/
def scopeHere : Query (Option Text) :=
  keep Memo.scopeHere (fun memo found => { memo with scopeHere := some found }) do
    let ctx ← read
    ask (.scope ctx.cursor) fun earlier => ctx.oracle.scope earlier ctx.cursor

/-- The scope at the last unit before the cursor that is not blank. Nothing is asked when there is
no such unit. -/
def scopeBefore : Query (Option Text) :=
  keep Memo.scopeBefore (fun memo found => { memo with scopeBefore := some found }) do
    let ctx ← read
    if ctx.contentColumn = 0 then return none
    else
      let place := ctx.place (ctx.contentColumn - 1)
      ask (.scope place) fun earlier => ctx.oracle.scope earlier place

/-- Whether the language at the cursor is among some languages and filetypes. Where the host knows no
language, the filetype of the buffer is looked for among them and the filetypes that they handle. -/
def isLanguageAmong (names : List Text) (handled : Except Fault (List Text)) : Predicate := do
  match ← language with
  | some current => return names.contains current || (languagesOf names).contains current
  | none =>
    let filetype := (← read).filetype
    if names.contains filetype then return true
    else
      match handled with
      | .ok filetypes => return filetypes.contains filetype
      | .error fault => throw fault

/-- Whether the language at the cursor is among some languages and filetypes. -/
def isLanguage (names : List Text) : Predicate :=
  isLanguageAmong names (filetypesOf names)

/-- Whether the span at the cursor is of a kind. -/
def inSpan (kind : Text) : Predicate := do
  return (← spanKind) == some kind

/-- Whether a scope that was found belongs to a set. -/
def scopeBelongs (isMember : Text → Except Fault Bool) (scope : Option Text) : Predicate :=
  match scope with
  | none => return false
  | some name =>
    match isMember name with
    | .ok answer => return answer
    | .error fault => throw fault

/-- Whether the scope at a place belongs to a set. The second place is looked at only if the first
one does not decide. -/
def scopeMatches (isMember : Text → Except Fault Bool) (place : ScopePlace) : Predicate :=
  match place with
  | .inside => scopeHere >>= scopeBelongs isMember
  | .after => scopeBefore >>= scopeBelongs isMember
  | .insideOrAfter => do
    if ← scopeHere >>= scopeBelongs isMember then return true
    scopeBefore >>= scopeBelongs isMember

/-- Whether the scope at a place is one of some scopes. -/
def scopeAmong (scopes : List Text) (place : ScopePlace) : Predicate :=
  scopeMatches (fun name => .ok (scopes.contains name)) place

/-- The nearest opening before the cursor without a closing. -/
def unmatchedOpening (delimiters : Delimiters) : Query (Option Unmatched) := do
  let ctx ← read
  ask (.unmatchedOpening delimiters ctx.cursor) fun earlier =>
    ctx.oracle.unmatchedOpening earlier delimiters ctx.cursor

/-- The nearest closing at or after the cursor without an opening. -/
def unmatchedClosing (delimiters : Delimiters) : Query (Option Unmatched) := do
  let ctx ← read
  ask (.unmatchedClosing delimiters ctx.cursor) fun earlier =>
    ctx.oracle.unmatchedClosing earlier delimiters ctx.cursor

end Query

end Pairing
