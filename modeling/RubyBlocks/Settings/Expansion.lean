import RubyBlocks.Files.Host
import RubyBlocks.Text.Classes

/-!
# Variables and the home directory in a path

A path in the settings may mention environment variables, as `$NAME`, as a name in braces
after a dollar sign, or in braces with a default that is used when the variable is not set.
Two dollar signs stand for one, and a dollar sign in front of anything else stands for
itself. Values and defaults are taken as they are, without a second look for variables.

A tilde at the front, alone or before a slash, stands for the home directory. It has to be
in the path as it was written: a tilde that came out of a variable is just a tilde.

One variable that is not set and has no default spoils the whole expansion.
-/

namespace RubyBlocks.Expansion

/-- A part of a path that mentions variables. -/
inductive Piece where
  /-- Text that stands for itself. -/
  | literal (text : Text)
  /-- The value of a variable, or else the default. -/
  | reference (name : Text) (default : Option Text)
deriving Repr, DecidableEq

/-- The two sides of the first `:-` in a text. -/
def splitDefault? : Text → Option (Text × Text)
  | [] => none
  | c :: rest =>
    if c = ':' && rest.head? == some '-' then some ([], rest.drop 1)
    else (splitDefault? rest).map fun (name, default) => (c :: name, default)

/-- The variable that the text between braces mentions. A default needs a name in front
of it. -/
def braced (inside : Text) : Piece :=
  match splitDefault? inside with
  | some (name, default) =>
    if name = [] then .reference inside none else .reference name (some default)
  | none => .reference inside none

theorem length_dropWhile_le (p : Char → Bool) (text : Text) :
    (text.dropWhile p).length ≤ text.length :=
  (List.dropWhile_sublist p).length_le

/-- The pieces of a path. -/
def pieces (path : Text) : List Piece :=
  match path with
  | [] => []
  | c :: rest =>
    if c ≠ '$' then .literal [c] :: pieces rest
    else
      match rest with
      | [] => [.literal ['$']]
      | d :: after =>
        if d = '$' then .literal ['$'] :: pieces after
        else if d = '{' then
          if after.contains '}' then
            braced (after.takeWhile (· != '}')) :: pieces ((after.dropWhile (· != '}')).drop 1)
          else .literal ['$', '{'] :: pieces after
        else if Text.isNameChar d then
          .reference (d :: after.takeWhile Text.isNameChar) none ::
            pieces (after.dropWhile Text.isNameChar)
        else .literal ['$'] :: pieces (d :: after)
termination_by path.length
decreasing_by
  all_goals grind [length_dropWhile_le]

/-- The text of the pieces in an environment, unless a variable is missing. -/
def fill (environment : Environment) : List Piece → Option Text
  | [] => some []
  | .literal text :: rest => (fill environment rest).map (text ++ ·)
  | .reference name default :: rest => do
    let value ← (environment.value? name).or default
    (fill environment rest).map (value ++ ·)

/-- The path with a tilde at its front replaced by the home directory. -/
def expandHome (environment : Environment) (path : Text) : Text :=
  match path, environment.home? with
  | '~' :: rest, some home =>
    if rest = [] || rest.head? = some '/' then home ++ rest else path
  | _, _ => path

/-- Whether a path has a tilde at its front. -/
def startsWithTilde (path : Text) : Bool := path.head? == some '~'

/-- The path with variables and the home directory filled in, unless a variable is
missing. -/
def expand? (environment : Environment) (path : Text) : Option Text :=
  (fill environment (pieces path)).map fun filled =>
    if startsWithTilde path || !startsWithTilde filled then expandHome environment filled
    else filled

/-- The variables that an expansion may ask for. -/
def mentioned (path : Text) : List Text :=
  ['H', 'O', 'M', 'E'] :: (pieces path).filterMap fun
    | .literal _ => none
    | .reference name _ => some name

end RubyBlocks.Expansion
