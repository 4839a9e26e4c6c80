import YouBox.JsText

/-!
# Request rules as text

The rule editor of `billing-expr.ts`: `buildRequestRuleExpr` writes groups of
conditions with their multipliers as a product of conditional factors,
`tryParseRequestRuleExpr` reads such a product back. The reader takes the text
apart at operators outside brackets (`TopSplit`) and matches each condition
against one pattern for each mode.

`null` is `none`. `JSON.parse` of what a pattern matched throws on a text that is
no literal of JSON; where the source catches that, the result is `none`, where it
does not, the reader throws. What `JSON.parse` and `String` make of an array or an
object is a parameter.

`Reads` says what the reader of conditions takes for what
(`tryParseRequestCondition_eq_ok_iff`).
-/

namespace YouBox

open JsText TopSplit

/-! ## Conditions -/

inductive TimeFunc where
  | hour | minute | weekday | month | day
deriving DecidableEq

/-- The modes that the editor offers, and any other text. -/
inductive MatchMode where
  | eq | contains | gt | gte | lt | lte | «exists» | range | other
deriving DecidableEq

inductive RuleSource where
  | param | header
deriving DecidableEq

structure ParamHeaderCondition where
  source : RuleSource
  path : JsString
  mode : MatchMode
  value : JsString
deriving DecidableEq

structure TimeCondition where
  timeFunc : TimeFunc
  timezone : JsString
  mode : MatchMode
  value : JsString
  rangeStart : JsString
  rangeEnd : JsString
deriving DecidableEq

inductive RequestCondition where
  | time (cond : TimeCondition)
  | request (cond : ParamHeaderCondition)
deriving DecidableEq

structure RequestRuleGroup where
  conditions : List RequestCondition
  multiplier : JsString
deriving DecidableEq

def TimeFunc.name : TimeFunc → JsString
  | hour => js "hour"
  | minute => js "minute"
  | weekday => js "weekday"
  | month => js "month"
  | day => js "day"

def RuleSource.name : RuleSource → JsString
  | param => js "param"
  | header => js "header"

/-- `getRequestRuleMatchOptions` of the source `time`. -/
def timeMatchOptions : List MatchMode := [.eq, .gte, .lt, .range]

/-- `getRequestRuleMatchOptions` of the other two. -/
def RuleSource.matchOptions : RuleSource → List MatchMode
  | header => [.eq, .contains, .exists]
  | param => [.eq, .contains, .exists, .gt, .gte, .lt, .lte]

/-- `normalizeCondition` -/
def TimeCondition.normalize (cond : TimeCondition) : TimeCondition :=
  { cond with
    timezone := if cond.timezone = [] then js "Asia/Shanghai" else cond.timezone
    mode := if cond.mode ∈ timeMatchOptions then cond.mode else .gte }

/-- `normalizeCondition` -/
def ParamHeaderCondition.normalize (cond : ParamHeaderCondition) : ParamHeaderCondition :=
  { cond with mode := if cond.mode ∈ cond.source.matchOptions then cond.mode else .eq }

/-! ## The writer -/

def buildExprLiteral (mode : MatchMode) (value : JsString) : JsString :=
  let text := trim value
  if mode = .contains then stringify text
  else if text = js "true" ∨ text = js "false" then text
  else if isNumericLiteral text then text
  else stringify text

def timeOp : MatchMode → JsString
  | .gte => js ">="
  | .lt => js "<"
  | _ => js "=="

def buildTimeConditionExpr (cond : TimeCondition) : JsString :=
  let cond := cond.normalize
  let fn := cond.timeFunc.name ++ js "(" ++ stringify cond.timezone ++ js ")"
  if cond.mode = .range then
    let s := trim cond.rangeStart
    let e := trim cond.rangeEnd
    if !isNumericLiteral s || !isNumericLiteral e then []
    else fn ++ js " >= " ++ s ++ js " || " ++ fn ++ js " < " ++ e
  else
    let v := trim cond.value
    if !isNumericLiteral v then []
    else fn ++ js " " ++ timeOp cond.mode ++ js " " ++ v

/-- `opMap` of the comparisons. -/
def compareOp : MatchMode → JsString
  | .gt => js ">"
  | .gte => js ">="
  | .lt => js "<"
  | _ => js "<="

def buildParamHeaderConditionExpr (cond : ParamHeaderCondition) : JsString :=
  let cond := cond.normalize
  let path := trim cond.path
  if path = [] then []
  else
    let sourceExpr := cond.source.name ++ js "(" ++ stringify path ++ js ")"
    match cond.mode with
    | .exists =>
      match cond.source with
      | .header => sourceExpr ++ js " != \"\""
      | .param => sourceExpr ++ js " != nil"
    | .contains =>
      let has := js "has(" ++ sourceExpr ++ js ", " ++ buildExprLiteral .contains cond.value
        ++ js ")"
      match cond.source with
      | .header => has
      | .param => sourceExpr ++ js " != nil && " ++ has
    | .gt | .gte | .lt | .lte =>
      let numText := trim cond.value
      if !isNumericLiteral numText then []
      else sourceExpr ++ js " != nil && " ++ sourceExpr ++ js " " ++ compareOp cond.mode
        ++ js " " ++ numText
    | _ => sourceExpr ++ js " == " ++ buildExprLiteral cond.mode cond.value

def buildRequestConditionExpr : RequestCondition → JsString
  | .time cond => buildTimeConditionExpr cond
  | .request cond => buildParamHeaderConditionExpr cond

/-- `e.includes(' || ') ? '(' + e + ')' : e` -/
def wrapOr (e : JsString) : JsString :=
  if js " || " <:+: e then js "(" ++ e ++ js ")" else e

/-- The texts that a group joins: a single one is not wrapped. -/
def combinedTexts : List JsString → List JsString
  | [e] => [e]
  | es => es.map wrapOr

def buildRuleGroupFactor (group : RequestRuleGroup) : JsString :=
  let multiplier := trim group.multiplier
  if !isNumericLiteral multiplier then []
  else
    let condExprs := (group.conditions.map buildRequestConditionExpr).filter (fun e => e ≠ [])
    if condExprs = [] then []
    else js "(" ++ joinWith (js " && ") (combinedTexts condExprs) ++ js " ? " ++ multiplier
      ++ js " : 1)"

def buildRequestRuleExpr (groups : List RequestRuleGroup) : JsString :=
  joinWith (js " * ") ((groups.map buildRuleGroupFactor).filter (fun e => e ≠ []))

/-! ## The reader -/

def openParen : UInt16 := 0x28

def closeParen : UInt16 := 0x29

def splitTopLevelMultiply (expr : JsString) : List JsString :=
  parts openParen closeParen (js " * ") isWhiteSpace expr

def splitTopLevelAnd (expr : JsString) : List JsString :=
  parts openParen closeParen (js " && ") isWhiteSpace expr

/-- What `JSON.parse` throws. -/
inductive SyntaxError where
  | syntaxError
deriving DecidableEq

/-- `JSON.parse` and `String` of a text that is neither a string nor a number, as
long as it does not throw. -/
def parseJsonRest (composite : JsString → Option JsString) (text : JsString) : Option JsString :=
  if text.head? = some 0x5b ∨ text.head? = some 0x7b then composite text
  else none

def parseExprLiteral (composite : JsString → Option JsString) (raw : JsString) :
    Option JsString :=
  let text := trim raw
  if text = js "true" ∨ text = js "false" then some text
  else if isNumericLiteral text then some text
  else if text.head? = some quote then parseString text
  else parseJsonRest composite text

def timeFuncs : List (JsString × TimeFunc) :=
  [TimeFunc.hour, .minute, .weekday, .month, .day].map (fun fn => (fn.name, fn))

/-- The pattern `NAME\("([^"]+)"\)`. -/
def callKey (name s : JsString) : Option (JsString × JsString) := do
  let s ← expect (name ++ js "(\"") s
  let (k, s) ← key s
  let s ← expect (js ")") s
  return (k, s)

/-- The pattern of an overnight range, up to its end. -/
def matchRange (s : JsString) : Option (TimeCondition × JsString) := do
  let (fn, s) ← oneOf timeFuncs s
  let (tz, s) ← callKey [] s
  let s ← expect (js " >= ") s
  let (rangeStart, s) ← number s
  let s ← expect (js " || ") s
  let s ← expect (fn.name ++ js "(\"" ++ tz ++ js "\")" ++ js " < ") s
  let (rangeEnd, s) ← number s
  return (⟨fn, tz, .range, [], rangeStart, rangeEnd⟩, s)

def matchWholeRange (s : JsString) : Option TimeCondition := do
  let (cond, s) ← matchRange s
  ended s
  return cond

def matchWrappedRange (s : JsString) : Option TimeCondition := do
  let s ← expect (js "(") s
  let (cond, s) ← matchRange s
  let s ← expect (js ")") s
  ended s
  return cond

/-- The operators with the space after them, and the modes of `opMap`. -/
def timeOps : List (JsString × MatchMode) :=
  [(js "== ", .eq), (js ">= ", .gte), (js "< ", .lt)]

def compareOps : List (JsString × MatchMode) :=
  [(js "> ", .gt), (js ">= ", .gte), (js "< ", .lt), (js "<= ", .lte)]

def matchTimeCompare (s : JsString) : Option TimeCondition := do
  let (fn, s) ← oneOf timeFuncs s
  let (tz, s) ← callKey [] s
  let s ← expect (js " ") s
  let (mode, s) ← oneOf timeOps s
  let (value, s) ← number s
  ended s
  return ⟨fn, tz, mode, value, [], []⟩

def tryParseTimeCondition (expr : JsString) : Option TimeCondition :=
  matchWholeRange expr <|> matchWrappedRange expr <|> matchTimeCompare expr

def matchHeaderExists (s : JsString) : Option JsString := do
  let (path, s) ← callKey (js "header") s
  let s ← expect (js " != \"\"") s
  ended s
  return path

def matchParamExists (s : JsString) : Option JsString := do
  let (path, s) ← callKey (js "param") s
  let s ← expect (js " != nil") s
  ended s
  return path

/-- The pattern `has\(SOURCE\("([^"]+)"\), ("(?:[^"\\]|\\.)*")\)$`. -/
def matchHas (source : RuleSource) (s : JsString) : Option (JsString × JsString) := do
  let (path, s) ← callKey (js "has(" ++ source.name) s
  let s ← expect (js ", ") s
  let (text, s) ← literal s
  let s ← expect (js ")") s
  ended s
  return (path, text)

/-- With the check that both keys are the same. -/
def matchParamContains (s : JsString) : Option (JsString × JsString) := do
  let (path, s) ← callKey (js "param") s
  let s ← expect (js " != nil && ") s
  let (path', text) ← matchHas .param s
  if path = path' then return (path, text) else none

def matchParamCompare (s : JsString) : Option ParamHeaderCondition := do
  let (path, s) ← callKey (js "param") s
  let s ← expect (js " != nil && ") s
  let (path', s) ← callKey (js "param") s
  let s ← expect (js " ") s
  let (mode, s) ← oneOf compareOps s
  let (value, s) ← number s
  ended s
  if path = path' then return ⟨.param, path, mode, value⟩ else none

/-- The pattern `^(param|header)\("([^"]+)"\) == (.+)$`. -/
def matchEq (source : RuleSource) (s : JsString) : Option (JsString × JsString) := do
  let (path, s) ← callKey source.name s
  let raw ← expect (js " == ") s
  if raw ≠ [] ∧ raw.all (fun u => !isLineTerminator u) then return (path, raw) else none

/-- `JSON.parse` of what a pattern for literals matched; nothing catches what it
throws. -/
def parseContains (source : RuleSource) (path text : JsString) :
    Except SyntaxError (Option ParamHeaderCondition) :=
  match parseString text with
  | some value => .ok (some ⟨source, path, .contains, value⟩)
  | none => .error .syntaxError

/-- `tryParseRequestCondition` after the conditions on time. -/
def tryParseParamHeaderCondition (composite : JsString → Option JsString) (expr : JsString) :
    Except SyntaxError (Option ParamHeaderCondition) :=
  match matchHeaderExists expr with
  | some path => .ok (some ⟨.header, path, .exists, []⟩)
  | none =>
  match matchParamExists expr with
  | some path => .ok (some ⟨.param, path, .exists, []⟩)
  | none =>
  match matchHas .header expr with
  | some (path, text) => parseContains .header path text
  | none =>
  match matchParamContains expr with
  | some (path, text) => parseContains .param path text
  | none =>
  match matchParamCompare expr with
  | some cond => .ok (some cond)
  | none =>
  match matchEq .param expr with
  | some (path, raw) =>
    .ok ((parseExprLiteral composite raw).map (fun value => ⟨.param, path, .eq, value⟩))
  | none =>
  match matchEq .header expr with
  | some (path, raw) =>
    .ok ((parseExprLiteral composite raw).map (fun value => ⟨.header, path, .eq, value⟩))
  | none => .ok none

def tryParseRequestCondition (composite : JsString → Option JsString) (expr : JsString) :
    Except SyntaxError (Option RequestCondition) :=
  match tryParseTimeCondition expr with
  | some cond => .ok (some (.time cond))
  | none => (tryParseParamHeaderCondition composite expr).map (fun c => c.map .request)

/-- A loop that reads texts one by one and gives up at the first that cannot be
read. -/
def readAll {α β ε : Type} (read : α → Except ε (Option β)) : List α → Except ε (Option (List β))
  | [] => .ok (some [])
  | a :: as =>
    match read a with
    | .error e => .error e
    | .ok none => .ok none
    | .ok (some b) => (readAll read as).map (fun bs => bs.map (b :: ·))

/-- The pattern `^\((.+) \? ([\d.eE+-]+) : 1\)$`, where `.` is any unit. A number
has no space, so its end is found from the right. -/
def matchFactor (s : JsString) : Option (JsString × JsString) := do
  let s ← expect (js "(") s
  let s ← expect (js " : 1)").reverse s.reverse
  let (multiplier, s) ← number s
  let s ← expect (js " ? ").reverse s
  if s = [] then none else return (s.reverse, multiplier.reverse)

def tryParseRuleGroupFactor (composite : JsString → Option JsString) (part : JsString) :
    Except SyntaxError (Option RequestRuleGroup) :=
  match matchFactor part with
  | none => .ok none
  | some (conditionStr, multiplier) =>
    (readAll (fun ap => tryParseRequestCondition composite (trim ap))
        (splitTopLevelAnd conditionStr)).map
      (fun conditions => (conditions.filter (fun cs => cs ≠ [])).map (fun cs => ⟨cs, multiplier⟩))

def tryParseRequestRuleExpr (composite : JsString → Option JsString) (expr : JsString) :
    Except SyntaxError (Option (List RequestRuleGroup)) :=
  let trimmed := trim expr
  if trimmed = [] then .ok (some [])
  else readAll (tryParseRuleGroupFactor composite) (splitTopLevelMultiply trimmed)

end YouBox
