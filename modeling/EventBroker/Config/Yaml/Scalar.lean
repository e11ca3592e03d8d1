import EventBroker.Config.Yaml.Place

/-!
Plain and quoted scalars. Both may run over several lines, which are joined by blanks.
-/

namespace EventBroker.Config.Yaml

/-! ### Joints -/

structure Joint where
  blanks : List Char := []
  broken : Bool := false
  emptyLines : Nat := 0
deriving Repr

namespace Joint

def addBlank (j : Joint) (c : Char) : Joint := { j with blanks := j.blanks ++ [c] }

def addBreak (j : Joint) (leading : Bool) : Joint :=
  if leading then { j with emptyLines := j.emptyLines + 1 }
  else { j with blanks := [], broken := true }

/-- A line break is read as a blank, unless there are empty lines. -/
def text (j : Joint) : List Char :=
  if j.broken ∧ j.emptyLines = 0 then [' '] else j.blanks ++ List.replicate j.emptyLines '\n'

end Joint

/-- Past blanks and breaks. A tab does not indent: a line in which one stands left of `indent` has
to be empty, and is an error in quotes. -/
def joint? (quoted : Bool) (indent : Int) : Nat → Joint → Place → Option (Joint × Place)
  | 0, _, _ => none
  | fuel + 1, j, p =>
    match p.rest with
    | [] => some (j, p)
    | c :: _ =>
      if isBreak c then joint? quoted indent fuel (j.addBreak p.leading) p.passBreak
      else if !isBlank c then some (j, p)
      else if !p.leading then joint? quoted indent fuel (j.addBlank c) (p.passBlanks 1)
      else if c = '\t' ∧ p.column < indent then
        if quoted then none
        else p.endLine?.bind fun p => joint? quoted indent fuel j p
      else joint? quoted indent fuel j (p.passBlanks 1)

/-! ### Plain scalars -/

def plainWord (flow : Bool) : List Char → List Char
  | [] => []
  | c :: rest =>
    if isBlank c || isBreak c || (flow && isFlow c) then []
    else if c = ':' && (atGap rest || (flow && atFlow rest)) then []
    else c :: plainWord flow rest

/-- The words of a plain scalar. Those on further lines are indented by `indent`. -/
def plainWords? (flow : Bool) (indent : Int) : Nat → Joint → Place → Option (List Char × Place)
  | 0, _, _ => none
  | fuel + 1, j, p =>
    if p.atMarker || p.rest.head? = some '#' then some ([], p)
    else if flow && p.rest.head? = some '-' && atFlow (p.rest.drop 1) then none
    else
      let word := plainWord flow p.rest
      if word.isEmpty then some ([], p)
      else do
        let p := p.pass word.length
        let (next, q) ← joint? false indent (p.rest.length + 1) {} p
        if !flow && q.column < indent then some (j.text ++ word, q)
        else
          let (words, q) ← plainWords? flow indent fuel next q
          some (j.text ++ word ++ words, q)

def plain? (flow : Bool) (indent : Int) (p : Place) : Option (String × Place) :=
  if flow && p.column < indent then none
  else
    (plainWords? flow indent (p.rest.length + 1) {} p).map fun (cs, q) => (String.ofList cs, q)

/-! ### Quoted scalars -/

def coded? (width : Nat) (cs : List Char) : Option (Char × Nat) := do
  if cs.length < width then none
  else
    let n ← (cs.take width).foldlM (fun n c => (Text.hexDigit? c).map (16 * n + ·)) 0
    if n.isValidChar then some (Char.ofNat n, width + 1) else none

/-- The character that is written after a backslash, and how many characters write it. -/
def escape? : List Char → Option (Char × Nat)
  | '0' :: _ => some ('\x00', 1)
  | 'a' :: _ => some ('\x07', 1)
  | 'b' :: _ => some ('\x08', 1)
  | 't' :: _ | '\t' :: _ => some ('\t', 1)
  | 'n' :: _ => some ('\n', 1)
  | 'v' :: _ => some ('\x0b', 1)
  | 'f' :: _ => some ('\x0c', 1)
  | 'r' :: _ => some ('\r', 1)
  | 'e' :: _ => some ('\x1b', 1)
  | ' ' :: _ => some (' ', 1)
  | '"' :: _ => some ('"', 1)
  | '/' :: _ => some ('/', 1)
  | '\\' :: _ => some ('\\', 1)
  | 'N' :: _ => some ('\u0085', 1)
  | '_' :: _ => some ('\u00a0', 1)
  | 'L' :: _ => some ('\u2028', 1)
  | 'P' :: _ => some ('\u2029', 1)
  | 'x' :: rest => coded? 2 rest
  | 'u' :: rest => coded? 4 rest
  | 'U' :: rest => coded? 8 rest
  | _ => none

/-- The characters up to a gap or the closing quote. A backslash at the end of a line takes the
break away. -/
def quotedWord? (quote : Char) : Nat → Place → Option (List Char × Place)
  | 0, _ => none
  | fuel + 1, p =>
    let more (c : Char) (count : Nat) : Option (List Char × Place) :=
      (quotedWord? quote fuel (p.pass count)).map fun (cs, q) => (c :: cs, q)
    match p.rest with
    | [] => some ([], p)
    | c :: rest =>
      if isBlank c || isBreak c then some ([], p)
      else if c = quote then
        if c = '\'' ∧ rest.head? = some '\'' then more '\'' 2 else some ([], p)
      else if c = '\\' ∧ quote = '"' then
        if rest.head?.any isBreak then some ([], (p.pass 1).passBreak)
        else do
          let (d, count) ← escape? rest
          more d (count + 1)
      else more c 1

/-- The words of a quoted scalar, all of them indented by `indent`, up to the closing quote. -/
def quotedWords? (quote : Char) (indent : Int) : Nat → Place → Option (List Char × Place)
  | 0, _ => none
  | fuel + 1, p => do
    if p.atMarker || p.rest.isEmpty || p.column < indent then none
    else
      let (word, p) ← quotedWord? quote (p.rest.length + 1) p
      if p.rest.head? = some quote then some (word, p.pass 1)
      else
        let (j, p) ← joint? true indent (p.rest.length + 1) {} p
        let (words, q) ← quotedWords? quote indent fuel p
        some (word ++ j.text ++ words, q)

/-- Whether a quoted scalar that began in `line` may end here: before a line end, a colon, or
inside brackets a comma or the end of the brackets. -/
def mayFollowQuote (flow : Bool) (line : Nat) (p : Place) : Bool :=
  match p.rest with
  | [] => true
  | c :: _ => isBreak c || (if flow then c ∈ [',', ']', '\x7d', ':'] else c = ':' && p.line = line)

def quoted? (quote : Char) (flow : Bool) (indent : Int) (p : Place) : Option (String × Place) := do
  let (cs, q) ← quotedWords? quote indent (p.rest.length + 1) (p.pass 1)
  let (_, q) ← q.passGap? true
  if mayFollowQuote flow p.line q then some (String.ofList cs, q) else none

end EventBroker.Config.Yaml
