-- The functions that a template may call. Those that steer a template or print are what their
-- names say; of all others only the name is known, and that is what they return.
import LayerLint.SortedMap
import LayerLint.Template.Format

namespace LayerLint.Template

/-- What a name does. -/
inductive Function where
  | and
  | or
  | not
  | len
  | index
  | print
  | printf
  | println
  | include
  | stub
  deriving DecidableEq, Repr

/-- The functions that a template may call, by their names. -/
structure Vocabulary where
  functions : SortedMap Function

/-- Why a call fails. -/
inductive CallProblem where
  | undefined (name : String)
  | wrongCount (name : String) (wanted given : Nat)
  | tooFew (name : String) (wanted given : Nat)
  | noLength (typeName : String)
  | outOfRange (index : Int)
  deriving DecidableEq, Repr

def CallProblem.message : CallProblem → String
  | .undefined name => "function " ++ Text.quoted name ++ " not defined"
  | .wrongCount name wanted given =>
    s!"wrong number of args for {name}: want {wanted} got {given}"
  | .tooFew name wanted given =>
    s!"wrong number of args for {name}: want at least {wanted} got {given}"
  | .noLength typeName => s!"len of type {typeName}"
  | .outOfRange index => s!"index out of range: {index}"

/-! ## Names -/

/-- The function that brings another template in. -/
def includeName : String := "include"

/-- Functions that are what their names say. -/
def realFunctions : List (String × Function) :=
  [("and", .and), ("or", .or), ("not", .not), ("len", .len), ("index", .index),
   ("print", .print), ("printf", .printf), ("println", .println)]

/-- Functions of the template language whose results hang on values that are not known. -/
def valueNames : List String :=
  ["eq", "ne", "lt", "le", "gt", "ge", "html", "js", "urlquery", "slice", "call"]

/-- Dates and times. -/
def dateNames : List String :=
  ["ago", "date", "dateInZone", "dateModify", "date_in_zone", "date_modify", "duration",
   "durationRound", "htmlDate", "htmlDateInZone", "mustDateModify", "mustToDate",
   "must_date_modify", "now", "toDate", "unixEpoch"]

/-- Texts. -/
def textNames : List String :=
  ["abbrev", "abbrevboth", "camelcase", "cat", "contains", "hasPrefix", "hasSuffix", "indent",
   "initials", "kebabcase", "lower", "nindent", "nospace", "plural", "quote", "randAlpha",
   "randAlphaNum", "randAscii", "randNumeric", "repeat", "replace", "shuffle", "snakecase",
   "squote", "substr", "swapcase", "title", "trim", "trimAll", "trimPrefix", "trimSuffix",
   "trimall", "trunc", "untitle", "upper", "wrap", "wrapWith", "hello"]

/-- Conversions and lists of texts. -/
def conversionNames : List String :=
  ["atoi", "float64", "int", "int64", "join", "sortAlpha", "split", "splitList", "splitn",
   "toDecimal", "toString", "toStrings"]

/-- Arithmetic. -/
def arithmeticNames : List String :=
  ["add", "add1", "add1f", "addf", "biggest", "ceil", "div", "divf", "floor", "max", "maxf",
   "min", "minf", "mod", "mul", "mulf", "randInt", "round", "seq", "sub", "subf", "until",
   "untilStep"]

/-- Defaults. -/
def defaultNames : List String :=
  ["all", "any", "coalesce", "compact", "default", "empty", "fail", "mustCompact", "ternary"]

/-- Encodings. -/
def encodingNames : List String :=
  ["b32dec", "b32enc", "b64dec", "b64enc", "fromJson", "mustFromJson", "mustToJson",
   "mustToPrettyJson", "mustToRawJson", "toJson", "toPrettyJson", "toRawJson"]

/-- Kinds and copies. -/
def reflectionNames : List String :=
  ["deepCopy", "deepEqual", "kindIs", "kindOf", "mustDeepCopy", "typeIs", "typeIsLike", "typeOf"]

/-- The environment and file names. -/
def pathNames : List String :=
  ["base", "clean", "dir", "env", "expandenv", "ext", "getHostByName", "isAbs", "osBase",
   "osClean", "osDir", "osExt", "osIsAbs"]

/-- Dictionaries. -/
def dictionaryNames : List String :=
  ["dict", "dig", "get", "hasKey", "keys", "merge", "mergeOverwrite", "mustMerge",
   "mustMergeOverwrite", "omit", "pick", "pluck", "set", "unset", "values"]

/-- Lists. -/
def listNames : List String :=
  ["append", "chunk", "concat", "first", "has", "initial", "last", "list", "mustAppend",
   "mustChunk", "mustFirst", "mustHas", "mustInitial", "mustLast", "mustPrepend", "mustPush",
   "mustRest", "mustReverse", "mustSlice", "mustUniq", "mustWithout", "prepend", "push", "rest",
   "reverse", "tuple", "uniq", "without"]

/-- Keys, digests and random values. -/
def cryptoNames : List String :=
  ["adler32sum", "bcrypt", "buildCustomCert", "decryptAES", "derivePassword", "encryptAES",
   "genCA", "genCAWithKey", "genPrivateKey", "genSelfSignedCert", "genSelfSignedCertWithKey",
   "genSignedCert", "genSignedCertWithKey", "htpasswd", "randBytes", "sha1sum", "sha256sum",
   "uuidv4"]

/-- Versions, patterns and addresses. -/
def patternNames : List String :=
  ["semver", "semverCompare", "mustRegexFind", "mustRegexFindAll", "mustRegexMatch",
   "mustRegexReplaceAll", "mustRegexReplaceAllLiteral", "mustRegexSplit", "regexFind",
   "regexFindAll", "regexMatch", "regexQuoteMeta", "regexReplaceAll", "regexReplaceAllLiteral",
   "regexSplit", "urlJoin", "urlParse"]

/-- Documents inside of documents. -/
def documentNames : List String :=
  ["fromYaml", "fromYamlArray", "fromJsonArray", "lookup", "required", "toToml", "toYaml", "tpl"]

namespace Vocabulary

/-! ## Building a vocabulary -/

def empty : Vocabulary := ⟨SortedMap.empty⟩

/-- Gives a name a function, in place of the one it had. -/
def define (v : Vocabulary) (name : String) (f : Function) : Vocabulary :=
  ⟨v.functions.insert name f⟩

/-- Gives a name no function but its own. -/
def stub (v : Vocabulary) (name : String) : Vocabulary := v.define name .stub

def contains (v : Vocabulary) (name : String) : Bool := v.functions.contains name

def get? (v : Vocabulary) (name : String) : Option Function := v.functions.get? name

def size (v : Vocabulary) : Nat := v.functions.size

/-- The names that are known without their functions. -/
def stubbedNames : List String :=
  [valueNames, dateNames, textNames, conversionNames, arithmeticNames, defaultNames,
   encodingNames, reflectionNames, pathNames, dictionaryNames, listNames, cryptoNames,
   patternNames, documentNames].flatten

/-- What every template may call. -/
def standard : Vocabulary :=
  let stubbed := stubbedNames.foldl stub empty
  (realFunctions.foldl (fun v f => v.define f.1 f.2) stubbed).define includeName .include

/-! ## Calls -/

/-- The first value for which a test holds, or the last one. -/
def firstOrLast (p : Datum → Bool) : List Datum → Datum
  | [] => .nil
  | [d] => d
  | d :: rest => if p d then d else firstOrLast p rest

/-- The value at a key: an octet of a text, and nothing of all else. -/
def item (d key : Datum) : Except CallProblem Datum :=
  match d, key with
  | .text s, .integer i =>
    if i < 0 then .error (.outOfRange i)
    else
      match (Text.encode s)[i.toNat]? with
      | some octet => .ok (.integer octet.toNat)
      | none => .error (.outOfRange i)
  | _, _ => .ok .nil

/-- Calls a function that needs at least one argument. -/
def withFirst (name : String) (args : List Datum) (f : Datum → List Datum → Except CallProblem Datum) :
    Except CallProblem Datum :=
  match args with
  | [] => .error (.tooFew name 1 0)
  | first :: rest => f first rest

/-- Calls a function that takes one argument. -/
def withOne (name : String) (args : List Datum) (f : Datum → Except CallProblem Datum) :
    Except CallProblem Datum :=
  match args with
  | [d] => f d
  | _ => .error (.wrongCount name 1 args.length)

/-- Applies a function that goes by a name. -/
def apply (f : Function) (name : String) (args : List Datum) : Except CallProblem Datum :=
  match f with
  | .and => withFirst name args fun first rest => .ok (firstOrLast (fun d => !d.isTrue) (first :: rest))
  | .or => withFirst name args fun first rest => .ok (firstOrLast Datum.isTrue (first :: rest))
  | .not => withOne name args fun d => .ok (.boolean (!d.isTrue))
  | .len => withOne name args fun d =>
    match d with
    | .nil => .ok (.integer 0)
    | .text s => .ok (.integer s.utf8ByteSize)
    | other => .error (.noLength other.typeName)
  | .index => withFirst name args fun first rest => rest.foldlM item first
  | .print => .ok (.text (Format.concat args))
  | .println => .ok (.text (Format.line args))
  | .printf => withFirst name args fun first rest => .ok (.text (Format.write first.write rest))
  | .include => .ok (.text "")
  | .stub => .ok (.text name)

/-- Calls a function by its name. -/
def call (v : Vocabulary) (name : String) (args : List Datum) : Except CallProblem Datum :=
  match v.get? name with
  | none => .error (.undefined name)
  | some f => apply f name args

end Vocabulary

end LayerLint.Template
