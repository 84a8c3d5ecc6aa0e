import QueryBench.Doc.Basic

/-!
# Elements of a page

Main definition: `Element`, what a page shows.
-/
set_option autoImplicit false

namespace QueryBench

inductive Element where
  | config (title layout : Text)
  | sidebarTitle (text : Text)
  | sidebarChoice (label : Text) (options : List Text)
  | title (text : Text)
  | input (label placeholder : Text)
  | chat (role : Text)
  | words (text : Text)
  | spinner (text : Text)
  | divider
  | columns (widths : List Nat)
  | success (text : Text)
  | metric (label : Text) (value : Doc) (help : Text)
  | warning (text : Text)
  | heading (text : Text)
  | expander (label : Text)
  | failure (text : Text)
  | document (content : Doc)
  | markup (text : Text)
  | code (text language : Text)

end QueryBench
