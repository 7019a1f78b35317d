/-
**Handling a key of a host.**

* `isUnreliableKey` — keys reported while an input method composes.
* `normalKey?` — the name of a key that rules are found under. Names that every record has are none.
* `keyKind?` — the kind of a key, if it is one that is decided.
* `KeystrokeSettings.isEnabledFor` — whether keys are decided at all.
* `handleKey` — what to do for a key.
* `boundKeys` — the keys that a host has to pass on.
-/

import Pairing.Verdict

namespace Pairing

/-- What keystrokes are handled by, beside the rules. -/
structure KeystrokeSettings where
  /-- Whether keys are decided at all. -/
  enabled : Bool
  /-- The filetypes in which no key is decided. -/
  disabledFiletypes : List Text
  /-- The indentation of opened lines where the host names none. -/
  indentUnit : Text
  deriving DecidableEq, Repr

/-- Whether a key is one that hosts report while its character is not known yet. -/
def isUnreliableKey (key : Text) : Bool :=
  [Text.ofString "Unidentified", Text.ofString "Process", Text.ofString "Dead"].contains key

/-- The names that hosts give to the keys with names of their own. -/
def keyAliases : List (Text × Text) :=
  [("Backspace", backspaceKey), ("<BS>", backspaceKey),
    ("Enter", enterKey), ("Return", enterKey), ("<CR>", enterKey),
    (" ", spaceKey), ("Space", spaceKey), ("<Space>", spaceKey)]

/-- The name of a key that rules are found under. -/
def normalKey? (key : Text) : Option Text :=
  match keyAliases.find? (·.1 == key) with
  | some (_, name) => some name
  | none =>
    if (inherited? key).isSome then none
    else some (if key.isSingleCluster then key.composed else key)

/-- The kind of a key, if it is one that is decided. -/
def keyKind? (key : Text) : Option KeyKind :=
  if key = spaceKey then some .space
  else if key = enterKey then some .enter
  else if key = backspaceKey then some .backspace
  else if key.isSingleCluster then some .printable
  else none

/-- Whether keys are decided for a snapshot. Overwriting text must not insert closings. -/
def KeystrokeSettings.isEnabledFor (settings : KeystrokeSettings) (snapshot : Snapshot) : Bool :=
  settings.enabled && snapshot.mode != .replace &&
    !settings.disabledFiletypes.contains snapshot.filetype

/-- The keys that a host has to pass on. -/
def boundKeys (index : RuleIndex) : List Text :=
  distinct (index.triggerKeys ++ [backspaceKey, enterKey, spaceKey])

/-- What comes of a key. -/
structure Response where
  /-- What to do. -/
  edit : Edit
  /-- The context and the verdict, if the key was decided. -/
  decided : Option (Context × Verdict)

/-- What to do for a key. A key that is not decided goes to the host as it came. -/
def handleKey (index : RuleIndex) (settings : KeystrokeSettings) (key : Text) (snapshot : Snapshot)
    (oracle : Oracle) : Except Fault Response :=
  if isUnreliableKey key || !settings.isEnabledFor snapshot then .ok ⟨.passThrough key, none⟩
  else
    match normalKey? key with
    | none => .error (.inheritedName (inherited? key == some .function))
    | some name =>
      match keyKind? name with
      | none => .ok ⟨.passThrough key, none⟩
      | some kind =>
        let ctx := Context.ofSnapshot
          { snapshot with indentUnit := some (snapshot.indentUnit.getD settings.indentUnit) } oracle
        let verdict := index.decide kind name ctx
        .ok ⟨verdict.edit, some (ctx, verdict)⟩

end Pairing
