import SpatialFilter.Yaml.Token

/-! The tree of a YAML document, as written: aliases are names, and tags are expanded. -/
namespace SpatialFilter.Yaml

inductive Node where
  | aliasOf (name : String)
  | scalar (anchor tag : Option String) (plain : Bool) (text : String)
  | sequence (anchor : Option String) (items : List Node)
  | mapping (anchor : Option String) (members : List (Node × Node))

namespace Node

def empty : Node := scalar none none true ""

structure Properties where
  anchor : Option String
  tag : Option String

abbrev Handles := List (String × String)

def standardHandles : Handles := [("!","!"),("!!","tag:yaml.org,2002:")]

/-- An empty handle leaves its suffix as it is. -/
def expandTag (handles : Handles) (handle suffix : String) : Option String :=
  if handle.isEmpty then some suffix else (handles.lookup handle).map (· ++ suffix)

def readProperties (handles : Handles) : List Token → Option (Properties × List Token)
  | .anchor name :: .tag handle suffix :: rest
  | .tag handle suffix :: .anchor name :: rest =>
    (expandTag handles handle suffix).map fun tag => (⟨some name,some tag⟩,rest)
  | .anchor name :: rest => some (⟨some name,none⟩,rest)
  | .tag handle suffix :: rest =>
    (expandTag handles handle suffix).map fun tag => (⟨none,some tag⟩,rest)
  | rest => some (⟨none,none⟩,rest)

/-- Where a node stands. In a block, block collections may begin; as a member of a block mapping a
node may also be a sequence of entries that has no start of its own. -/
inductive Place where
  | flow | block | member
deriving DecidableEq

/-- A tag `!` on a scalar is no tag. -/
def scalarTag (tag : Option String) : Option String := if tag = some "!" then none else tag

def endsMember : List Token → Bool
  | .key :: _ | .value :: _ | .blockEnd :: _ => true
  | _ => false

def endsEntry : List Token → Bool
  | .blockEntry :: _ | .blockEnd :: _ => true
  | _ => false

def endsBareEntry (tokens : List Token) : Bool := endsEntry tokens || endsMember tokens

def endsFlowItem : List Token → Bool
  | .flowEntry :: _ | .flowSequenceEnd :: _ => true
  | _ => false

def endsFlowKey (tokens : List Token) : Bool :=
  endsFlowItem tokens || tokens.head? == some .value

def endsFlowMember : List Token → Bool
  | .flowEntry :: _ | .flowMappingEnd :: _ => true
  | _ => false

def endsFlowMemberKey (tokens : List Token) : Bool :=
  endsFlowMember tokens || tokens.head? == some .value

mutual

def read (handles : Handles) : Nat → Place → List Token → Option (Node × List Token)
  | 0,_,_ => none
  | _ + 1,_,.aliasOf name :: rest => some (aliasOf name,rest)
  | bound + 1,place,tokens => do
    let (⟨anchor,tag⟩,tokens) ← readProperties handles tokens
    match tokens with
    | .scalar plain text :: rest => return (scalar anchor (scalarTag tag) plain text,rest)
    | .flowSequenceStart :: rest =>
      let (items,rest) ← readFlowItems handles bound true rest
      return (sequence anchor items,rest)
    | .flowMappingStart :: rest =>
      let (members,rest) ← readFlowMembers handles bound true rest
      return (mapping anchor members,rest)
    | _ =>
      match place,tokens with
      | .member,.blockEntry :: _ =>
        let (items,rest) ← readBareEntries handles bound tokens
        return (sequence anchor items,rest)
      | .block,.blockSequenceStart :: rest | .member,.blockSequenceStart :: rest =>
        let (items,rest) ← readEntries handles bound rest
        return (sequence anchor items,rest)
      | .block,.blockMappingStart :: rest | .member,.blockMappingStart :: rest =>
        let (members,rest) ← readMembers handles bound rest
        return (mapping anchor members,rest)
      | _,_ =>
        if anchor.isNone && tag.isNone then none
        else return (scalar anchor tag true "",tokens)

def readUnless (handles : Handles) (ends : List Token → Bool) :
    Nat → Place → List Token → Option (Node × List Token)
  | 0,_,_ => none
  | bound + 1,place,tokens =>
    if ends tokens then some (empty,tokens) else read handles bound place tokens

def readEntries (handles : Handles) : Nat → List Token → Option (List Node × List Token)
  | 0,_ => none
  | bound + 1,.blockEntry :: rest => do
    let (item,rest) ← readUnless handles endsEntry bound .block rest
    let (items,rest) ← readEntries handles bound rest
    return (item :: items,rest)
  | _ + 1,.blockEnd :: rest => some ([],rest)
  | _ + 1,_ => none

def readBareEntries (handles : Handles) : Nat → List Token → Option (List Node × List Token)
  | 0,_ => none
  | bound + 1,.blockEntry :: rest => do
    let (item,rest) ← readUnless handles endsBareEntry bound .block rest
    let (items,rest) ← readBareEntries handles bound rest
    return (item :: items,rest)
  | _ + 1,rest => some ([],rest)

def readValue (handles : Handles) (ends : List Token → Bool) :
    Nat → Place → List Token → Option (Node × List Token)
  | 0,_,_ => none
  | bound + 1,place,.value :: rest => readUnless handles ends bound place rest
  | _ + 1,_,rest => some (empty,rest)

def readMembers (handles : Handles) : Nat → List Token → Option (List (Node × Node) × List Token)
  | 0,_ => none
  | bound + 1,.key :: rest => do
    let (key,rest) ← readUnless handles endsMember bound .member rest
    let (value,rest) ← readValue handles endsMember bound .member rest
    let (members,rest) ← readMembers handles bound rest
    return ((key,value) :: members,rest)
  | _ + 1,.blockEnd :: rest => some ([],rest)
  | _ + 1,_ => none

/-- The items of a flow sequence. A key makes its item a mapping of one member. Where that key is
left out the token behind its mark is dropped. -/
def readFlowItems (handles : Handles) : Nat → Bool → List Token → Option (List Node × List Token)
  | 0,_,_ => none
  | _ + 1,_,.flowSequenceEnd :: rest => some ([],rest)
  | bound + 1,false,.flowEntry :: rest => readFlowItems handles bound true rest
  | _ + 1,false,_ => none
  | bound + 1,true,.key :: rest => do
    let (key,rest) ← if endsFlowKey rest then some (empty,rest.drop 1) else read handles bound .flow rest
    let (value,rest) ← readValue handles endsFlowItem bound .flow rest
    let (items,rest) ← readFlowItems handles bound false rest
    return (mapping none [(key,value)] :: items,rest)
  | bound + 1,true,tokens => do
    let (item,rest) ← read handles bound .flow tokens
    let (items,rest) ← readFlowItems handles bound false rest
    return (item :: items,rest)

/-- The members of a flow mapping. A node without the mark of a key is a key without a value. -/
def readFlowMembers (handles : Handles) :
    Nat → Bool → List Token → Option (List (Node × Node) × List Token)
  | 0,_,_ => none
  | _ + 1,_,.flowMappingEnd :: rest => some ([],rest)
  | bound + 1,false,.flowEntry :: rest => readFlowMembers handles bound true rest
  | _ + 1,false,_ => none
  | bound + 1,true,.key :: rest => do
    let (key,rest) ← readUnless handles endsFlowMemberKey bound .flow rest
    let (value,rest) ← readValue handles endsFlowMember bound .flow rest
    let (members,rest) ← readFlowMembers handles bound false rest
    return ((key,value) :: members,rest)
  | bound + 1,true,tokens => do
    let (key,rest) ← read handles bound .flow tokens
    let (members,rest) ← readFlowMembers handles bound false rest
    return ((key,empty) :: members,rest)

end

/-! ### Documents -/

/-- The directives in front of a document. There may be one version, of which 1.1 and 1.2 are
known, and one expansion for each tag handle. -/
def readDirectives : List Token → Option (Bool × Handles × List Token)
  | .version major minor :: rest => do
    let (versioned,handles,rest) ← readDirectives rest
    if versioned || major ≠ 1 || (minor ≠ 1 && minor ≠ 2) then none
    return (true,handles,rest)
  | .tagDirective handle expansion :: rest => do
    let (versioned,handles,rest) ← readDirectives rest
    if (handles.lookup handle).isSome then none
    return (versioned,(handle,expansion) :: handles,rest)
  | rest => some (false,[],rest)

def endsDocument : List Token → Bool
  | [] => true
  | .version .. :: _ | .tagDirective .. :: _ | .documentStart :: _ | .documentEnd :: _ => true
  | _ => false

/-- The root of the first document and the rest, or no root if there is no document at all. -/
def readDocument (tokens : List Token) : Option (Option Node × List Token) :=
  let bound := 2 * tokens.length + 2
  match tokens with
  | [] => some (none,[])
  | _ => do
    let (root,rest) ←
      match tokens with
      | .version .. :: _ | .tagDirective .. :: _ | .documentStart :: _ =>
        match ← readDirectives tokens with
        | (_,handles,.documentStart :: rest) =>
          readUnless (handles ++ standardHandles) endsDocument bound .block rest
        | _ => none
      | _ => read standardHandles bound .block tokens
    return (some root,rest)

def ofTokens? (tokens : List Token) : Option (Option Node) := do
  let (root,rest) ← readDocument tokens
  if rest.all (· == .documentEnd) then return root else none

end Node
end SpatialFilter.Yaml
