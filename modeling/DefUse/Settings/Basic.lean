import DefUse.Name

/-!
# Settings/Basic — what a run takes for granted

The names that are defined before anything is read, and the members a handle gains from the call
that created it: a factory's table entry lists them, and a call whose name ends in the clone token
copies those of the handle it is called on.
-/

namespace DefUse

/-- **The settings of a run.** -/
structure Settings where
  /-- Names defined in the global scope from the start, each once. -/
  globals : List String
  /-- For the name of a factory, the members its handles have. -/
  derived : List (String × List String)
  /-- What stands between a handle and its members. -/
  separator : Separator
  /-- The method that copies a handle. -/
  cloneSuffix : String
  deriving DecidableEq, Repr

namespace Settings

/-- The names defined before any script. -/
def bundledGlobals : List String :=
  ["assert", "error", "ipairs", "next", "pairs", "pcall", "print", "select", "tonumber", "tostring",
   "type", "unpack", "xpcall", "math.abs", "math.ceil", "math.floor", "math.max", "math.min",
   "math.random", "string.format", "string.sub", "table.insert", "table.remove", "table.unpack",
   "REASON_COST", "REASON_EFFECT", "CATEGORY_DAMAGE", "EFFECT_FLAG_PLAYER_TARGET",
   "EFFECT_FLAG_SINGLE_RANGE", "EFFECT_TYPE_IGNITION", "EFFECT_TYPE_SINGLE", "LOCATION_MZONE",
   "HINT_SELECTMSG", "HINTMSG_FACEUP", "RESET_EVENT", "EFFECT_UPDATE_ATTACK",
   "EFFECT_UPDATE_DEFENSE", "aux.Stringid", "aux.AddKaijuProcedure", "Duel.IsCanRemoveCounter",
   "Duel.RemoveCounter", "Duel.Damage", "Duel.Hint", "Duel.GetMatchingGroup", "Effect.CreateEffect",
   "GetID"]

/-- The members of effect handles. -/
def bundledDerived : List (String × List String) :=
  [("Effect.CreateEffect",
    ["SetDescription", "SetCategory", "SetType", "SetCode", "SetProperty", "SetRange",
     "SetTargetRange", "SetAbsoluteRange", "SetCountLimit", "SetCondition", "SetCost", "SetTarget",
     "SetOperation", "SetValue", "SetReset", "SetLabel", "SetLabelObject", "SetHintTiming",
     "SetOwnerPlayer", "GetHandler", "GetLabel", "GetLabelObject", "GetOwnerPlayer", "Clone",
     "Reset"])]

/-- The settings in force where nothing else is said. -/
def bundled : Settings := ⟨bundledGlobals, bundledDerived, .colon, "Clone"⟩

/-- How the name of a call that copies a handle ends. -/
def cloneToken (s : Settings) : String := s.separator.text ++ s.cloneSuffix

/-- The members a factory's handles have, none for a name that is no factory. -/
def derivedFrom (s : Settings) (callee : String) : List String :=
  ((s.derived.find? (·.1 = callee)).map (·.2)).getD []

end Settings

end DefUse
