namespace ShadowPanel.Data

/-- A JSON value.  A number keeps the text it was written with. -/
inductive Json where
  | null
  | bool (value : Bool)
  | number (text : List Char)
  | string (text : List Char)
  | array (items : List Json)
  | object (fields : List (List Char × Json))

end ShadowPanel.Data
