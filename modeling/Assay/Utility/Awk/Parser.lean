import Assay.Utility.Awk.Token
import Assay.Utility.Expression.Parser

/-!
# Reading programs

Programs are read by descent, with a level for each kind of operator. An assignment is read where
its target stands, however tightly the operators in front of it bind.
-/

namespace Assay.Awk

open Expression

/-- What is being read. -/
structure Reading where
  tokens : List (Token × Nat)
  /-- The names of all functions. -/
  functions : List String := []
  /-- The parameters of the function that is read. -/
  own : List String := []
  /-- Whether shared names are tables, as far as that is known. -/
  tables : List (String × Bool) := []
  /-- The functions that are called, with the numbers of their arguments and the lines. -/
  calls : List (String × Nat × Nat) := []
  parentheses : Nat := 0
  loops : Nat := 0
  inFunction : Bool := false
  /-- Whether the rule that is read belongs to no record. -/
  outside : Bool := false

/-- Readers. -/
abbrev Reader := StateT Reading (Except Fault)

/-- What may stand where an expression is read. -/
structure Place where
  /-- Whether `in` does not belong to it. -/
  noIn : Bool := false
  /-- Whether the sign for greater leads to a file. -/
  noGreater : Bool := false
  /-- Whether it is an argument, so that a name alone may be a table. -/
  argument : Bool := false

/-- The next token. -/
def peek : Reader Token := do
  return (((← get).tokens.head?).map Prod.fst).getD .finish

/-- The line of the next token. -/
def lineNow : Reader Nat := do
  return (((← get).tokens.head?).map Prod.snd).getD 1

/-- Goes over a token. -/
def advance : Reader Unit := do
  let t ← peek
  modify fun s =>
    { s with
      tokens := if s.tokens.length > 1 then s.tokens.tail else s.tokens
      parentheses := match t with
        | .sign "(" => s.parentheses + 1
        | .sign ")" => s.parentheses - 1
        | _ => s.parentheses }

/-- Refuses the program. -/
def refuse {α : Type} (message : String) : Reader α := do
  throw ⟨← lineNow, message, false⟩

/-- Refuses the next token. -/
def unexpected {α : Type} : Reader α := do
  let t ← peek
  let line ← lineNow
  match t with
  | .sign "\x7d" =>
    if (← get).parentheses > 0 then refuse "missing ) near \x7d"
    else refuse "syntax error at or near \x7d"
  | .sign ")" =>
    if (← get).parentheses = 0 then refuse "extra ')'" else refuse "syntax error at or near )"
  | t => throw ⟨line, "syntax error at or near " ++ t.shown, false⟩

/-- Whether the next token is a sign. -/
def atSign (s : String) : Reader Bool := do
  match ← peek with
  | .sign t => return s = t
  | _ => return false

/-- Whether the next token is a word. -/
def atWord (s : String) : Reader Bool := do
  match ← peek with
  | .word t => return s = t
  | _ => return false

/-- Goes over a sign if it comes next; whether it does. -/
def takeSign (s : String) : Reader Bool := do
  if ← atSign s then
    advance
    return true
  else return false

/-- Goes over a sign, which has to come next. -/
def needSign (s : String) : Reader Unit := do
  if !(← takeSign s) then unexpected

/-- Goes over line breaks. -/
def skipLines : (fuel : Nat) → Reader Unit
  | 0 => return ()
  | fuel + 1 => do
    if (← peek) matches .newline then
      advance
      skipLines fuel

/-- Goes over all line breaks. -/
def skipNewlines : Reader Unit := do
  skipLines (← get).tokens.length

/-- Goes over line breaks and semicolons. -/
def skipSeparators : (fuel : Nat) → Reader Unit
  | 0 => return ()
  | fuel + 1 => do
    match ← peek with
    | .newline | .sign ";" =>
      advance
      skipSeparators fuel
    | _ => return ()

/-- Remembers whether a shared name is a table. -/
def remember (name : String) (table : Bool) : Reader Unit := do
  match (← get).tables.lookup name with
  | none => modify fun s => { s with tables := (name, table) :: s.tables }
  | some known =>
    if known != table then
      refuse ("illegal reference to " ++ (if known then "array " else "variable ") ++ name)

/-- The variable of a name. -/
def nameOf (name : String) : Reader Name := do
  match (← get).own.findIdx? (· = name) with
  | some i => return .own i
  | none => return .shared name

/-- The table of a name. -/
def tableOf (name : String) : Reader Name := do
  match ← nameOf name with
  | .own i => return .own i
  | n =>
    remember name true
    return n

/-- What is wrong with an expression to look for. -/
def regexComplaint (bs : List UInt8) (fault : FormFault) : String :=
  let what := match fault with
    | .nothingToRepeat => "missing operand"
    | .openGroup => "missing ')'"
    | .closedGroup => "missing '('"
    | .openBracket | .bareBracket => "bad class -- [], [^] or ["
    | _ => "syntax error ^* or ^+"
  "regular expression compile failed (" ++ what ++ ")\n" ++ Text.decodeLossy ⟨bs.toArray⟩

/-- How expressions are written that are looked for. -/
def regexStyle : Dialect :=
  { extended := true, looseBraces := true, bracketEscapes := true, wordSigns := false }

/-- The automaton of an expression. -/
def regexOf (bs : List UInt8) : Reader Automaton := do
  match compile regexStyle false bs with
  | .ok a => return a
  | .error fault => refuse (regexComplaint bs fault)

/-- An expression that is looked for: a text stands for the automaton that it writes. -/
def asPattern (e : Expr) : Reader Expr := do
  match e with
  | .text bs => return .regex (← regexOf bs)
  | e => return e

/-- Whether something can be assigned to. -/
def Expr.isTarget : Expr → Bool
  | .variable _ | .field _ | .element .. => true
  | _ => false

/-- The operator of an assignment, if a sign is one. -/
def assignment? : Token → Option (Option Operator)
  | .sign "=" => some none
  | .sign "+=" => some (some .add)
  | .sign "-=" => some (some .subtract)
  | .sign "*=" => some (some .multiply)
  | .sign "/=" => some (some .divide)
  | .sign "%=" => some (some .remainder)
  | .sign "^=" => some (some .power)
  | _ => none

/-- The comparison of a sign. -/
def comparison? (p : Place) : Token → Option Comparison
  | .sign "<" => some .less
  | .sign "<=" => some .atMost
  | .sign "==" => some .equal
  | .sign "!=" => some .different
  | .sign ">" => if p.noGreater then none else some .greater
  | .sign ">=" => some .atLeast
  | _ => none

/-- Whether an operand begins with a token, so that it is put behind the one in front. -/
def Token.beginsOperand : Token → Bool
  | .number _ | .text _ | .name _ | .called _ => true
  | .sign s => s = "$" || s = "(" || s = "++" || s = "--"
  | _ => false

/-- How the operators bind, the weakest first. -/
inductive Level where
  | condition
  | either
  | both
  | membership
  | found
  | comparison
  | joined
  | sum
  | product
  | sign

/-- The level that binds more tightly. -/
def Level.tighter : Level → Level
  | condition => either
  | either => both
  | both => membership
  | membership => found
  | found => comparison
  | comparison => joined
  | joined => sum
  | sum => product
  | product | sign => sign

mutual

/-- Reads an expression. -/
def expression : (fuel : Nat) → Place → Reader Expr
  | 0, _ => unexpected
  | fuel + 1, p => climb fuel .condition p

/-- Reads an expression of a level. -/
def climb : (fuel : Nat) → Level → Place → Reader Expr
  | 0, _, _ => unexpected
  | fuel + 1, .sign, p => do
    if ← takeSign "!" then return .not (← climb fuel .sign p)
    else if ← takeSign "-" then return .minus (← climb fuel .sign p)
    else if ← takeSign "+" then return .plus (← climb fuel .sign p)
    else powered fuel p
  | fuel + 1, level, p => do
    let e ← climb fuel level.tighter p
    further fuel level { p with argument := false } e

/-- Reads on behind an operand of a level. -/
def further : (fuel : Nat) → Level → Place → Expr → Reader Expr
  | 0, _, _, _ => unexpected
  | fuel + 1, level, p, e => do
    let t ← peek
    match level with
    | .condition =>
      if ← takeSign "?" then
        skipNewlines
        let a ← climb fuel .condition p
        skipNewlines
        needSign ":"
        skipNewlines
        let b ← climb fuel .condition p
        return .conditional e a b
      else return e
    | .either =>
      if ← takeSign "||" then
        skipNewlines
        let b ← climb fuel .both p
        further fuel level p (.either e b)
      else return e
    | .both =>
      if ← takeSign "&&" then
        skipNewlines
        let b ← climb fuel .membership p
        further fuel level p (.both e b)
      else return e
    | .membership =>
      if p.noIn then return e
      else if ← atWord "in" then
        advance
        match ← peek with
        | .name s =>
          advance
          let t ← tableOf s
          let es := match e with
            | .listed es => es
            | e => [e]
          further fuel level p (.member es t)
        | _ => unexpected
      else return e
    | .found =>
      match t with
      | .sign "~" =>
        advance
        let b ← climb fuel .comparison p
        further fuel level p (.found true e (← asPattern b))
      | .sign "!~" =>
        advance
        let b ← climb fuel .comparison p
        further fuel level p (.found false e (← asPattern b))
      | _ => return e
    | .comparison =>
      match comparison? p t with
      | some c =>
        advance
        let b ← climb fuel .joined p
        further fuel level p (.compare c e b)
      | none => return e
    | .joined =>
      if t.beginsOperand then
        let b ← climb fuel .sum p
        further fuel level p (.joined e b)
      else return e
    | .sum =>
      match t with
      | .sign "+" =>
        advance
        let b ← climb fuel .product p
        further fuel level p (.arithmetic .add e b)
      | .sign "-" =>
        advance
        let b ← climb fuel .product p
        further fuel level p (.arithmetic .subtract e b)
      | _ => return e
    | .product =>
      match t with
      | .sign "*" =>
        advance
        let b ← climb fuel .sign p
        further fuel level p (.arithmetic .multiply e b)
      | .sign "/" =>
        advance
        let b ← climb fuel .sign p
        further fuel level p (.arithmetic .divide e b)
      | .sign "%" =>
        advance
        let b ← climb fuel .sign p
        further fuel level p (.arithmetic .remainder e b)
      | _ => return e
    | .sign => return e

/-- Reads an operand with its powers. -/
def powered : (fuel : Nat) → Place → Reader Expr
  | 0, _ => unexpected
  | fuel + 1, p => do
    let e ← operand fuel p true
    if ← takeSign "^" then
      match ← peek with
      | .sign "-" | .sign "+" | .sign "!" => return .arithmetic .power e (← climb fuel .sign p)
      | _ => return .arithmetic .power e (← powered fuel p)
    else return e

/-- Reads an operand with what stands directly behind it; `assigns` says whether it may be assigned
to. -/
def operand : (fuel : Nat) → Place → (assigns : Bool) → Reader Expr
  | 0, _, _ => unexpected
  | fuel + 1, p, assigns => do
    let e ← primary fuel p
    if e.isTarget then
      match assignment? (← peek), assigns with
      | some op, true =>
        advance
        skipNewlines
        let value ← climb fuel .condition { p with argument := false }
        return .assign op e value
      | _, _ =>
        if ← takeSign "++" then piped fuel (.bump false 1 e)
        else if ← takeSign "--" then piped fuel (.bump false (-1) e)
        else piped fuel e
    else piped fuel e

/-- Reads on behind an operand that may be a command whose output is read. -/
def piped : (fuel : Nat) → Expr → Reader Expr
  | 0, _ => unexpected
  | fuel + 1, e => do
    match (← get).tokens with
    | (.sign "|", _) :: (.word "getline", _) :: _ =>
      advance
      advance
      let target ← target? fuel
      piped fuel (.getline .command (some e) target)
    | _ => return e

/-- Reads a variable, if there is one. -/
def target? : (fuel : Nat) → Reader (Option Expr)
  | 0 => return none
  | fuel + 1 => do
    match ← peek with
    | .name _ | .sign "$" => return some (← primary fuel {})
    | _ => return none

/-- Reads expressions with commas between them. -/
def list : (fuel : Nat) → Place → Reader (List Expr)
  | 0, _ => unexpected
  | fuel + 1, p => do
    let e ← expression fuel p
    if ← takeSign "," then
      skipNewlines
      return e :: (← list fuel p)
    else return [e]

/-- Reads the arguments of a function, from behind the parenthesis. -/
def arguments : (fuel : Nat) → Reader (List Expr)
  | 0 => unexpected
  | fuel + 1 => do
    skipNewlines
    if ← takeSign ")" then return []
    let es ← list fuel { argument := true }
    skipNewlines
    needSign ")"
    return es

/-- Reads an operand. -/
def primary : (fuel : Nat) → Place → Reader Expr
  | 0, _ => unexpected
  | fuel + 1, p => do
    match ← peek with
    | .number x =>
      advance
      return .number x
    | .text bs =>
      advance
      return .text bs
    | .regex bs =>
      advance
      return .regex (← regexOf bs)
    | .sign "$" =>
      advance
      if ← takeSign "++" then return .field (.bump true 1 (← primary fuel {}))
      else if ← takeSign "--" then return .field (.bump true (-1) (← primary fuel {}))
      else if ← takeSign "-" then return .field (.minus (← primary fuel {}))
      else return .field (← primary fuel {})
    | .sign "++" =>
      advance
      let e ← primary fuel {}
      if e.isTarget then return .bump true 1 e else unexpected
    | .sign "--" =>
      advance
      let e ← primary fuel {}
      if e.isTarget then return .bump true (-1) e else unexpected
    | .sign "(" =>
      advance
      skipNewlines
      let es ← list fuel {}
      skipNewlines
      needSign ")"
      match es with
      | [e] => return .grouped e
      | es => return .listed es
    | .name s =>
      advance
      let next ← peek
      if next matches .sign "[" then
        advance
        let t ← tableOf s
        let es ← list fuel {}
        needSign "]"
        return .element t es
      else
        let alone := p.argument && ((next matches .sign ",") || (next matches .sign ")"))
        if (← get).functions.contains s && (next matches .sign "(") then
          advance
          calling fuel s
        else
          let n ← nameOf s
          if !alone && (n matches .shared _) then remember s false
          return .variable n
    | .called s =>
      advance
      match Builtin.ofName? s with
      | none =>
        if (← get).own.contains s then return .variable (← nameOf s)
        needSign "("
        calling fuel s
      | some b =>
        if b = .length && !(← atSign "(") then return .builtin .length []
        needSign "("
        let args ← arguments fuel
        let (least, most) := b.arity
        if args.length < least || most < args.length then
          refuse ("wrong number of arguments in call to " ++ s)
        if b = .split then
          if let some (Expr.variable (.shared t)) := args[1]? then remember t true
        match b, args with
        | .sub, a :: rest | .gsub, a :: rest => return .builtin b ((← asPattern a) :: rest)
        | .match, [a, e] => return .builtin b [a, ← asPattern e]
        | _, _ => return .builtin b args
    | .word "getline" =>
      advance
      let target ← target? fuel
      if ← takeSign "<" then
        let source ← primary fuel {}
        return .getline .file (some source) target
      else return .getline .input none target
    | _ => unexpected

/-- Reads the arguments of a function that is called, from behind the parenthesis. -/
def calling : (fuel : Nat) → (name : String) → Reader Expr
  | 0, _ => unexpected
  | fuel + 1, name => do
    let line ← lineNow
    let args ← arguments fuel
    modify fun s => { s with calls := s.calls ++ [(name, args.length, line)] }
    return .call name args

end

/-- Goes over what ends a simple statement. -/
def endStatement : Reader Unit := do
  match ← peek with
  | .newline | .sign ";" => advance
  | .sign "\x7d" | .finish => return ()
  | _ => unexpected

/-- Reads a simple statement, without what ends it. -/
def simple (fuel : Nat) : Reader Stmt := do
  let goal? : Reader (Option (Outlet × Expr)) := do
    let outlet? : Option Outlet := match ← peek with
      | .sign ">" => some .file
      | .sign ">>" => some .appended
      | .sign "|" => some .command
      | _ => none
    match outlet? with
    | none => return none
    | some outlet =>
      advance
      return some (outlet, ← expression fuel { noGreater := true })
  let printed : Reader (List Expr) := do
    match ← peek with
    | .newline | .finish | .sign ";" | .sign "\x7d" | .sign ">" | .sign ">>" | .sign "|" =>
      return []
    | _ =>
      let es ← list fuel { noGreater := true }
      match es with
      | [.listed es] => return es
      | es => return es
  match ← peek with
  | .word "print" =>
    advance
    let args ← printed
    return .print args (← goal?)
  | .word "printf" =>
    advance
    let empty ← do
      match (← get).tokens with
      | (.sign "(", _) :: (.sign ")", _) :: _ => pure true
      | _ => pure false
    let args ← if empty then pure [] else printed
    if args.isEmpty then refuse "no arguments in call to printf"
    return .printf args (← goal?)
  | .word "delete" =>
    advance
    match ← peek with
    | .name s =>
      advance
      let t ← tableOf s
      if ← takeSign "[" then
        let es ← list fuel {}
        needSign "]"
        return .delete t es
      else return .clear t
    | _ => unexpected
  | _ => return .evaluate (← expression fuel {})

mutual

/-- Reads a statement with what ends it. -/
def statement : (fuel : Nat) → Reader Stmt
  | 0 => unexpected
  | fuel + 1 => do
    let ends : Reader Bool := do
      match ← peek with
      | .newline | .finish | .sign ";" | .sign "\x7d" => return true
      | _ => return false
    match ← peek with
    | .sign "\x7b" => block fuel
    | .sign ";" =>
      advance
      return .block []
    | .word "if" =>
      advance
      needSign "("
      let c ← expression fuel {}
      needSign ")"
      skipNewlines
      let a ← statement fuel
      let before ← get
      skipSeparators before.tokens.length
      if ← atWord "else" then
        advance
        skipNewlines
        return .branch c a (some (← statement fuel))
      else
        set before
        return .branch c a none
    | .word "while" =>
      advance
      needSign "("
      let c ← expression fuel {}
      needSign ")"
      if ← takeSign ";" then return .loop (some c) (.block []) none
      skipNewlines
      return .loop (some c) (← looped fuel) none
    | .word "do" =>
      advance
      skipNewlines
      let body ← looped fuel
      skipSeparators (← get).tokens.length
      if !(← atWord "while") then unexpected
      advance
      needSign "("
      let c ← expression fuel {}
      needSign ")"
      endStatement
      return .loopAfter body c
    | .word "for" =>
      advance
      needSign "("
      match (← get).tokens with
      | (.name v, _) :: (.word "in", _) :: (.name t, _) :: (.sign ")", _) :: _ =>
        for _ in [1, 2, 3, 4] do advance
        let n ← nameOf v
        if n matches .shared _ then remember v false
        let t ← tableOf t
        skipNewlines
        return .forKeys n t (← looped fuel)
      | _ =>
        let first ← if ← atSign ";" then pure (Stmt.block []) else simple fuel
        needSign ";"
        skipNewlines
        let c ← if ← atSign ";" then pure none else some <$> expression fuel {}
        needSign ";"
        skipNewlines
        let step ← if ← atSign ")" then pure none else some <$> simple fuel
        needSign ")"
        if ← takeSign ";" then return .block [first, .loop c (.block []) step]
        skipNewlines
        return .block [first, .loop c (← looped fuel) step]
    | .word "next" =>
      if (← get).outside then refuse "improper use of next"
      advance
      endStatement
      return .next
    | .word "nextfile" =>
      if (← get).outside then refuse "improper use of nextfile"
      advance
      endStatement
      return .nextFile
    | .word "exit" =>
      advance
      let e ← if ← ends then pure none else some <$> expression fuel {}
      endStatement
      return .leave e
    | .word "return" =>
      if !(← get).inFunction then refuse "return outside function body"
      advance
      let e ← if ← ends then pure none else some <$> expression fuel {}
      endStatement
      return .giveBack e
    | .word "break" =>
      if (← get).loops = 0 then refuse "break statement outside of loop"
      advance
      endStatement
      return .leaveLoop
    | .word "continue" =>
      if (← get).loops = 0 then refuse "continue statement outside of loop"
      advance
      endStatement
      return .nextRound
    | _ =>
      let s ← simple fuel
      endStatement
      return s

/-- Reads the body of a loop. -/
def looped : (fuel : Nat) → Reader Stmt
  | 0 => unexpected
  | fuel + 1 => do
    modify fun s => { s with loops := s.loops + 1 }
    let body ← statement fuel
    modify fun s => { s with loops := s.loops - 1 }
    return body

/-- Reads statements in braces. -/
def block : (fuel : Nat) → Reader Stmt
  | 0 => unexpected
  | fuel + 1 => do
    needSign "\x7b"
    let ss ← statements fuel
    advance
    return .block ss

/-- Reads statements up to a brace that closes them. -/
def statements : (fuel : Nat) → Reader (List Stmt)
  | 0 => unexpected
  | fuel + 1 => do
    skipNewlines
    match ← peek with
    | .sign "\x7d" => return []
    | .finish => throw ⟨(← lineNow) + 1, "missing \x7d near end of file", false⟩
    | _ =>
      let s ← statement fuel
      return s :: (← statements fuel)

end

/-- Reads names with commas between them. -/
def parameters : (fuel : Nat) → Reader (List String)
  | 0 => unexpected
  | fuel + 1 => do
    match ← peek with
    | .name s =>
      advance
      if ← takeSign "," then
        skipNewlines
        return s :: (← parameters fuel)
      else return [s]
    | _ => unexpected

/-- Reads a function, from behind its word. -/
def function (fuel : Nat) : Reader (String × Function) := do
  match ← peek with
  | .name s | .called s =>
    if (Builtin.ofName? s).isSome then unexpected
    advance
    needSign "("
    let own ← if ← atSign ")" then pure [] else parameters fuel
    needSign ")"
    skipNewlines
    modify fun st => { st with own, inFunction := true, outside := false }
    let body ← block fuel
    modify fun st => { st with own := [], inFunction := false }
    return (s, { parameters := own.length, body })
  | _ => unexpected

/-- Reads a rule. -/
def rule (fuel : Nat) : Reader Rule := do
  let pattern ← match ← peek with
    | .word "BEGIN" => do
      advance
      pure Pattern.first
    | .word "END" => do
      advance
      pure Pattern.last
    | .sign "\x7b" => pure Pattern.always
    | .sign "\x7d" => refuse "extra '\x7d'\nawk: line 1: syntax error at or near end of line"
    | _ => do
      let a ← expression fuel {}
      if ← takeSign "," then
        skipNewlines
        pure (Pattern.range a (← expression fuel {}))
      else pure (Pattern.condition a)
  modify fun s => { s with outside := (pattern matches .first) || (pattern matches .last) }
  if ← atSign "\x7b" then return { pattern, body := some (← block fuel) }
  else match pattern with
    | .first | .last => unexpected
    | pattern => return { pattern, body := none }

/-- Reads rules and functions up to the end. -/
def items : (fuel : Nat) → Program → Reader Program
  | 0, p => return p
  | fuel + 1, p => do
    skipNewlines
    match ← peek with
    | .finish => return p
    | .word "function" | .word "func" =>
      advance
      let f ← function fuel
      skipSeparators (← get).tokens.length
      items fuel { p with functions := p.functions ++ [f] }
    | _ =>
      let r ← rule fuel
      match ← peek with
      | .sign ";" | .newline => advance
      | _ => pure ()
      items fuel { p with rules := p.rules ++ [r] }

/-- The functions that tokens define. -/
def definedNames : List (Token × Nat) → List String
  | (.word "function", _) :: (.name s, _) :: rest | (.word "function", _) :: (.called s, _) :: rest
  | (.word "func", _) :: (.name s, _) :: rest | (.word "func", _) :: (.called s, _) :: rest =>
    s :: definedNames rest
  | _ :: rest => definedNames rest
  | [] => []

/-- What is wrong with the calls of functions. -/
def wrongCall? (p : Program) (line : Nat) : List (String × Nat × Nat) → Option Fault
  | [] => none
  | (name, args, place) :: rest =>
    match p.functions.lookup name with
    | none => some ⟨line + 1, "function " ++ name ++ " never defined", false⟩
    | some f =>
      if f.parameters < args then
        some ⟨place, "too many arguments in call to " ++ name, false⟩
      else wrongCall? p line rest

/-- The program of a text. -/
def Program.parse (text : String) : Except Fault Program := do
  let ts ← tokens (text.length + 1) 1 .newline text.toList
  let fuel := 16 * ts.length + 64
  let (p, s) ← (items fuel {}).run { tokens := ts, functions := definedNames ts }
  let line := (ts.getLast?.map Prod.snd).getD 1
  match wrongCall? p line s.calls with
  | some fault => throw fault
  | none => return { p with tables := (s.tables.filter (·.2)).map Prod.fst }

end Assay.Awk
