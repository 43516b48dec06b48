import TreeSchema.Validation

/-!
# The keywords that are read

A step looks up the names in `keywords`, and nothing else of a node. Those in
`dataKeywords` are asked of the value alone: what they report depends on their
own values only.
-/

namespace TreeSchema.Validation

def dataKeywords : List String :=
  ["const", "enum", "type", "minLength", "maxLength", "pattern", "minimum", "maximum",
    "exclusiveMinimum", "exclusiveMaximum", "multipleOf", "minProperties", "maxProperties",
    "minItems", "maxItems", "uniqueItems"]

def schemaKeywords : List String :=
  ["if", "then", "else", "not", "properties", "patternProperties", "additionalProperties", "items"]

def listKeywords : List String := ["oneOf", "anyOf", "allOf", "required"]

/-- The keywords that a step reads. -/
def keywords : List String := "$ref" :: (dataKeywords ++ schemaKeywords ++ listKeywords)

section Data

variable {node node' : Members}
  (h : ∀ keyword ∈ dataKeywords, node.lookup keyword = node'.lookup keyword)

include h

theorem constFaults_congr (value : Value) : constFaults value node = constFaults value node' := by
  simp (disch := decide) only [constFaults, h]

theorem enumFaults_congr (value : Value) : enumFaults value node = enumFaults value node' := by
  simp (disch := decide) only [enumFaults, Members.items?, h]

theorem typeFaults_congr (value : Value) : typeFaults value node = typeFaults value node' := by
  simp (disch := decide) only [typeFaults, h]

theorem stringFaults_congr (s : String) : stringFaults s node = stringFaults s node' := by
  simp (disch := decide) only [stringFaults, Members.count?, Members.number?, Members.string?, h]

theorem numberFaults_congr (n : Number) : numberFaults n node = numberFaults n node' := by
  simp (disch := decide) only [numberFaults, minimumFaults, maximumFaults, exclusiveFaults,
    multipleFaults, Members.number?, Members.bool?, h]

theorem memberCountFaults_congr (members : Members) :
    memberCountFaults members node = memberCountFaults members node' := by
  simp (disch := decide) only [memberCountFaults, Members.count?, Members.number?, h]

theorem itemCountFaults_congr (items : List Value) :
    itemCountFaults items node = itemCountFaults items node' := by
  simp (disch := decide) only [itemCountFaults, Members.count?, Members.number?, h]

theorem uniquenessFaults_congr (items : List Value) :
    uniquenessFaults items node = uniquenessFaults items node' := by
  unfold uniquenessFaults Members.bool?
  rw [h "uniqueItems" (by decide)]

end Data

end TreeSchema.Validation
