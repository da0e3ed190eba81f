/-
The names by which a construct is taken for one of the component library:

* `Vocabulary`: five sets of names, two namespaces and the name of the element factory;
* `Vocabulary.isHookCall`, `isElementFactory`, `isNamespaced`, `isLibraryType`: what they say of a
  callee or of a type;
* `isPascalCase`: names written like those of components;
* `Vocabulary.default`: the names of the library itself.

Names decide alone: nothing is resolved, and a local function with the name of a hook counts as the
hook.
-/
import SourceLayers.Text.Identifier
import SourceLayers.Text.Letter
import SourceLayers.Vocabulary.NameSet

namespace SourceLayers

/-- The names that mark a construct as belonging to the component library. -/
structure Vocabulary where
  /-- Functions that are hooks. -/
  hooks : NameSet
  /-- Types of the library. -/
  types : NameSet
  /-- Functions of the library that are no hooks. -/
  utilities : NameSet
  /-- Markup attributes that the library reads itself. -/
  jsxAttributes : NameSet
  /-- Texts of directives. -/
  directives : NameSet
  /-- The namespace of the library. -/
  library : Identifier
  /-- The namespace of markup types. -/
  markup : Identifier
  /-- The function that builds elements. -/
  elementFactory : String
  deriving DecidableEq

namespace Vocabulary

/-- Whether a callee is a hook: a name of the set, or `use` in the namespace of the library, alone
or before an uppercase character. -/
def isHookCall (vocabulary : Vocabulary) (callee : List Char) : Bool :=
  vocabulary.hooks.contains (String.ofList callee) ||
    let marker := vocabulary.library.val.toList ++ ".use".toList
    marker.isPrefixOf callee &&
      match callee.drop marker.length with
      | [] => true
      | c :: _ => isUppercase c

/-- Whether a callee is the element factory, alone or in the namespace of the library. -/
def isElementFactory (vocabulary : Vocabulary) (callee : List Char) : Bool :=
  callee == vocabulary.elementFactory.toList ||
    callee == vocabulary.library.val.toList ++ '.' :: vocabulary.elementFactory.toList

/-- Whether a name begins with the namespace of the library and a point. -/
def isNamespaced (vocabulary : Vocabulary) (name : List Char) : Bool :=
  (vocabulary.library.val.toList ++ ['.']).isPrefixOf name

/-- Whether the name of a type is one of the library: in one of the two namespaces, or in the
set. -/
def isLibraryType (vocabulary : Vocabulary) (name : List Char) : Bool :=
  vocabulary.isNamespaced name ||
    (vocabulary.markup.val.toList ++ ['.']).isPrefixOf name ||
    vocabulary.types.contains (String.ofList name)

end Vocabulary

/-- Whether a name is written like that of a component: an uppercase letter of ASCII, then letters
and digits of ASCII. A line feed at the very end is allowed. -/
def isPascalCase (name : List Char) : Bool :=
  match name with
  | [] => false
  | c :: rest =>
    c.isUpper &&
      match rest.dropWhile Char.isAlphanum with
      | [] => true
      | d :: tail => d == '\n' && tail.isEmpty

/-! ### The names of the library -/

/-- Hooks. -/
def defaultHooks : List String :=
  ["useState", "useEffect", "useContext", "useReducer", "useCallback", "useMemo", "useRef",
    "useImperativeHandle", "useLayoutEffect", "useDebugValue", "useDeferredValue",
    "useTransition", "useId", "useSyncExternalStore", "useInsertionEffect", "use"]

/-- Types: components, elements and nodes, markup, props, attributes, refs, events, state, contexts
and special components. -/
def defaultTypes : List String :=
  ["FC", "FunctionComponent", "ComponentType", "ComponentClass", "ElementType",
    "ExoticComponent", "ForwardRefExoticComponent", "MemoExoticComponent", "LazyExoticComponent",
    "ReactNode", "ReactElement", "ReactChild", "ReactFragment", "ReactPortal", "ReactText",
    "Element", "IntrinsicElements",
    "PropsWithChildren", "PropsWithRef", "ComponentProps", "ComponentPropsWithRef",
    "ComponentPropsWithoutRef",
    "HTMLAttributes", "SVGAttributes", "HTMLProps", "CSSProperties", "DOMAttributes",
    "AriaAttributes",
    "Ref", "RefObject", "MutableRefObject", "ForwardedRef", "LegacyRef", "RefCallback",
    "ElementRef", "ComponentRef",
    "SyntheticEvent", "ChangeEvent", "MouseEvent", "FormEvent", "KeyboardEvent", "FocusEvent",
    "DragEvent", "TouchEvent", "PointerEvent", "WheelEvent", "AnimationEvent", "TransitionEvent",
    "ClipboardEvent", "CompositionEvent", "UIEvent",
    "Dispatch", "SetStateAction", "ReducerState", "ReducerAction",
    "Context", "Provider", "Consumer",
    "Suspense", "SuspenseProps", "StrictMode", "Profiler", "ProfilerProps", "Fragment", "Key"]

/-- Functions that are recognised by their bare names. -/
def defaultUtilities : List String :=
  ["memo", "forwardRef", "lazy", "createContext", "createRef", "cloneElement", "isValidElement",
    "createElement", "Children", "Fragment", "Suspense", "StrictMode", "Profiler"]

/-- The vocabulary of the library itself. -/
def Vocabulary.default : Vocabulary where
  hooks := NameSet.ofList defaultHooks
  types := NameSet.ofList defaultTypes
  utilities := NameSet.ofList defaultUtilities
  jsxAttributes := NameSet.ofList ["key", "ref"]
  directives := NameSet.ofList ["use client", "use server"]
  library := ⟨"React", by decide⟩
  markup := ⟨"JSX", by decide⟩
  elementFactory := "createElement"

instance : Inhabited Vocabulary :=
  ⟨.default⟩

end SourceLayers
