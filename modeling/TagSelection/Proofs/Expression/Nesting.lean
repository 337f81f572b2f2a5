import TagSelection.Proofs.Expression.Separation

namespace TagSelection

namespace Expression

def bothOf (first second : String) : String :=
  "and(" ++ first ++ "," ++ second ++ ")"

def eitherOf (first second : String) : String :=
  "or(" ++ first ++ "," ++ second ++ ")"

def contraryOf (expression : String) : String :=
  "not(" ++ expression ++ ")"

theorem Describes.body {text : List Char} {condition : Condition}
    (describes : Describes text condition) : Body text [condition] := by
  cases describes with
  | tag isWord notBlank =>
      have body := Body.last isWord
      rwa [wordOperands_of_not_blank notBlank] at body
  | call isCall blank =>
      have body := Body.of_call isCall (Body.last blank.1)
      rwa [wordOperands_of_blank blank.2] at body

theorem Describes.leads {text : List Char} {condition : Condition} {separator : Char}
    (describes : Describes text condition) (separates : isSeparator separator = true) :
    Leads (text ++ [separator]) [condition] := by
  cases describes with
  | tag isWord notBlank =>
      have leads := leads_nil.separated isWord separates
      rwa [wordOperands_of_not_blank notBlank] at leads
  | call isCall blank =>
      have leads := leads_of_call isCall blank separates
      rwa [← List.append_assoc] at leads

theorem Body.describes_call {operator : Operator} {inner : List Char}
    {operands : List Condition} {condition : Condition} (body : Body inner operands)
    (composes : Composes operator operands condition) :
    Describes (operator.name.toList ++ '(' :: (inner ++ [')'])) condition := by
  have call := Call.mk (isWord_name operator) (names_name operator) body composes
  simpa using Describes.call call isBlankWord_nil

variable {first second : String} {firstCondition secondCondition : Condition}

theorem body_of_pair (firstDescribes : Describes first.toList firstCondition)
    (secondDescribes : Describes second.toList secondCondition) :
    Body (first.toList ++ [','] ++ second.toList) [firstCondition, secondCondition] :=
  firstDescribes.leads (by decide) _ _ secondDescribes.body

theorem describes_bothOf (firstDescribes : Describes first.toList firstCondition)
    (secondDescribes : Describes second.toList secondCondition) :
    Describes (bothOf first second).toList (.and [firstCondition, secondCondition]) := by
  have body := body_of_pair firstDescribes secondDescribes
  simpa [bothOf, Operator.name] using body.describes_call (Composes.and _ _)

theorem describes_eitherOf (firstDescribes : Describes first.toList firstCondition)
    (secondDescribes : Describes second.toList secondCondition) :
    Describes (eitherOf first second).toList (.or [firstCondition, secondCondition]) := by
  have body := body_of_pair firstDescribes secondDescribes
  simpa [eitherOf, Operator.name] using body.describes_call (Composes.or _ _)

theorem describes_contraryOf (describes : Describes first.toList firstCondition) :
    Describes (contraryOf first).toList (.not (some firstCondition)) := by
  have body := describes.body
  simpa [contraryOf, Operator.name] using body.describes_call (Composes.not _)

end Expression

end TagSelection
