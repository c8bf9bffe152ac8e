/-
# The demonstration schema

Three models that refer to each other, for a first look.

Key definitions: `demoSchema`.
-/

namespace SchemaDiagram

/-- The lines of the demonstration schema. -/
def demoLines : List String :=
  ["datasource db \x7b",
   "  provider = \"postgresql\"",
   "  url      = env(\"DATABASE_URL\")",
   "\x7d",
   "",
   "generator client \x7b",
   "  provider = \"prisma-client-js\"",
   "\x7d",
   "",
   "model User \x7b",
   "  id        String   @id @default(cuid())",
   "  email     String   @unique",
   "  name      String?",
   "  posts     Post[]",
   "  comments  Comment[]",
   "  createdAt DateTime @default(now())",
   "  updatedAt DateTime @updatedAt",
   "\x7d",
   "",
   "model Post \x7b",
   "  id        String    @id @default(cuid())",
   "  title     String",
   "  content   String?",
   "  published Boolean   @default(false)",
   "  author    User      @relation(fields: [authorId], references: [id])",
   "  authorId  String",
   "  comments  Comment[]",
   "  createdAt DateTime  @default(now())",
   "  updatedAt DateTime  @updatedAt",
   "\x7d",
   "",
   "model Comment \x7b",
   "  id        String   @id @default(cuid())",
   "  body      String",
   "  post      Post     @relation(fields: [postId], references: [id])",
   "  postId    String",
   "  author    User     @relation(fields: [authorId], references: [id])",
   "  authorId  String",
   "  createdAt DateTime @default(now())",
   "\x7d"]

/-- The text of the demonstration schema. -/
def demoSchema : String :=
  "\n".intercalate demoLines

end SchemaDiagram
