import Midrange.Program

/-!
# The hexadecimal listing

One line `AAAA: CCCC` per word, between a header of three comment lines and a footer that follows an
empty line. A program without words has an empty listing, header and footer included.
-/

namespace Midrange.Listing

/-- The comment lines on top. -/
def header : String :=
  "; Código Hexadecimal Generado\n; Formato: DIRECCIÓN: CÓDIGO\n;\n"

/-- The comment line at the bottom. -/
def footer : String :=
  "; Fin del programa"

/-- The line of one word. -/
def line (placed : Placed) : List Char :=
  placed.address.upperHex ++ [':', ' '] ++ placed.value.upperHex

/-- The characters of a listing. -/
def characters (words : List Placed) : List Char :=
  if words.isEmpty then []
  else header.toList ++ (words.flatMap fun placed => line placed ++ ['\n']) ++
    '\n' :: footer.toList

/-- The listing of the given words. -/
def render (words : List Placed) : String :=
  String.ofList (characters words)

end Midrange.Listing
