import MoveBindings.Emission.Environment
import MoveBindings.Json.Writer

/-!
# Project files

Besides the generated code a project has three files that make it a package of
its own. Only the package's name varies; a package that is given none has an
empty list in its place.
-/

namespace MoveBindings.NpmPackage

/-- An object whose members are texts. -/
def textMembers (members : List (String × String)) : Json :=
  .object (members.map fun (name, text) => (name, .string text))

/-- The packages that are needed to build and test a project. -/
def devDependencies : List (String × String) :=
  [ ("@types/jest", "^27.4.1"), ("@types/node", "^17.0.31"),
    ("@typescript-eslint/eslint-plugin", "^5.22.0"), ("@typescript-eslint/parser", "^5.22.0"),
    ("eslint", "^8.15.0"), ("eslint-config-prettier", "^8.5.0"),
    ("eslint-plugin-prettier", "^4.0.0"), ("jest", "^27.5.1"), ("prettier", "^2.6.2"),
    ("ts-jest", "^27.1.4"), ("typescript", "^4.6.4") ]

/-- The packages that generated code uses. -/
def dependencies : List (String × String) :=
  [("aptos", "^1.2.0"), ("big-integer", "^1.6.51"), ("@manahippo/move-to-ts", "^0.0.49")]

/-- The name of the package in its description. -/
def nameJson (name : Option String) : Json := name.elim (.array []) .string

/-- The description of the package. -/
def packageJson (name : Option String) : Json :=
  .object
    [ ("name", nameJson name), ("version", .string "0.0.1"),
      ("scripts", textMembers
        [("build", "rm -rf dist; tsc -p tsconfig.json"), ("test", "jest")]),
      ("main", .string "dist/index.js"), ("typings", .string "dist/index.d.ts"),
      ("files", .array [.string "src", .string "dist"]),
      ("devDependencies", textMembers devDependencies),
      ("dependencies", textMembers dependencies) ]

/-- The settings of the compiler. -/
def compilerJson : Json :=
  .object
    [ ("compilerOptions", .object
        [ ("target", .string "es2016"), ("module", .string "commonjs"),
          ("rootDir", .string "./src"), ("moduleResolution", .string "node"),
          ("declaration", .bool true), ("declarationMap", .bool true),
          ("sourceMap", .bool true), ("outDir", .string "./dist"),
          ("esModuleInterop", .bool true), ("forceConsistentCasingInFileNames", .bool true),
          ("strict", .bool true), ("skipLibCheck", .bool true) ]) ]

/-- The lines of the test runner's settings. -/
def jestLines : List String :=
  [ "module.exports = \x7b", "  preset: \"ts-jest\",", "  testEnvironment: \"node\",",
    "  testPathIgnorePatterns: [\"dist/*\"],", "\x7d;" ]

/-- The project files of a package. -/
def files (name : Option String) : List OutputFile :=
  [ ⟨"package.json", (packageJson name).pretty ++ "\n"⟩,
    ⟨"tsconfig.json", compilerJson.pretty ++ "\n"⟩,
    ⟨"jest.config.js", String.join (jestLines.map (· ++ "\n"))⟩ ]

end MoveBindings.NpmPackage
