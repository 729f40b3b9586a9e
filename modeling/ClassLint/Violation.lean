import ClassLint.Text.Blank

/-! The ways a selector can break the naming convention. -/

namespace ClassLint

inductive Violation where
  | componentName (classes : Text)
  | helperName (classes : Text)
  | elementName (name : Text)
  | variantWithoutElement (level : Text)
  | variantName (name : Text)
  | variantNames (names : List Text)
  | tooManyComponents (classes : Text)
  | tooDeep (selector : Text)
  deriving DecidableEq, Repr

namespace Violation

def variants : List Text → Violation
  | [name] => .variantName name
  | names => .variantNames names

def id : Violation → Text
  | .componentName _ => "invalidComponentName"
  | .helperName _ => "invalidHelperName"
  | .elementName _ => "invalidElementName"
  | .variantWithoutElement _ => "variantWithoutElement"
  | .variantName _ => "invalidVariantName"
  | .variantNames _ => "invalidVariantNames"
  | .tooManyComponents _ => "tooManyComponents"
  | .tooDeep _ => "tooDeep"

def message : Violation → Text
  | .componentName t => "Invalid component name: " ++ cited (trim t)
  | .helperName t => "Invalid helper name: " ++ cited (trim t)
  | .elementName t => "Invalid element name: " ++ cited (trim t)
  | .variantWithoutElement t => "Variant has no element: " ++ cited (trim t)
  | .variantName t => "Invalid variant name: " ++ cited (trim t)
  | .variantNames names => "Invalid variant names: " ++ (", " : Text).intercalate names
  | .tooManyComponents t => "Only one component name is allowed: " ++ cited (trim t)
  | .tooDeep t => "Component too deep: " ++ cited (trim t)

end Violation

end ClassLint
