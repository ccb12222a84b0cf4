import PatchCompiler.Template.Basic

/-!
# Makefiles

Makefiles of programs for boards, games and sound engines.
-/

namespace PatchCompiler.Sheet

def optimised : String :=
  "-ffast-math -fPIC -Werror -Wno-unused-function -Wno-\\#warnings"

def flags : String :=
  "CFLAGS=$(BASEFLAGS) -std=c11\nCXXFLAGS=$(BASEFLAGS) -std=c++11 -fno-exceptions -fno-rtti\n"

def compiled : String :=
  "%.o: %.c $(HEADERS)\n\t$(CC) -c -o $@ $< $(CFLAGS)\n
%.o: %.cpp $(HEADERS)\n\t$(CXX) -c -o $@ $< $(CXXFLAGS)\n"

def belaMakefile : Template :=
  [.text ["CC=ccache arm-linux-gnueabihf-gcc\nCXX=ccache arm-linux-gnueabihf-g++\nMKDIR=mkdir -p",
     "SRCDIR=../source\nOUTDIR=../build/linux/armv7a/release",
     "BASEFLAGS=-I$(SRCDIR) -DNDEBUG -O3 -march=armv7-a -mtune=cortex-a8 -mfloat-abi=hard -mfpu=neon -ftree-vectorize " ++ optimised,
     flags,
     "HEADERS=$(wildcard $(SRCDIR)/*.h)\nHEADERS+=$(wildcard $(SRCDIR)/*.hpp)\n",
     "CFILES=$(wildcard $(SRCDIR)/*.c)\nOBJC=$(CFILES:%.c=%.o)\n",
     "CXXFILES=$(wildcard $(SRCDIR)/*.cpp)\nOBJCXX=$(CXXFILES:%.cpp=%.o)\n", compiled,
     "all: directories objs\n\ndirectories: $(OUTDIR)\n\n$(OUTDIR):\n\t$(MKDIR) $(OUTDIR)\n",
     "objs: $(OBJC) $(OBJCXX)\n\tcp $(SRCDIR)/* $(OUTDIR)\n\nlibrary: $(OBJC) $(OBJCXX)",
     "\tar rcs $(OUTDIR)/libHv_`name`.a $^\n\nzip: $(OBJC) $(OBJCXX)",
     "\tzip -j $(OUTDIR)/Hv_`name`_objs.zip $(SRCDIR)/*\n\n.PHONY: clean\n\nclean:",
     "\trm -f $(SRCDIR)/*.o $(OUTDIR)/*.a $(OUTDIR)/*.zip\n"]]

def fabricMakefile : Template :=
  [.text ["CC=clang\nCXX=clang++\nMKDIR=mkdir -p\nSRCDIR=../source",
     "OUTDIR=../build/linux/x64/release/Plugins/x64/linux",
     "BASEFLAGS=-I$(SRCDIR) -DNDEBUG -msse4.1 -O3 " ++ optimised,
     flags,
     "HEADERS=$(wildcard $(SRCDIR)/heavy/*.h)\nHEADERS+=$(wildcard $(SRCDIR)/heavy/*.hpp)\n",
     "CFILES=$(wildcard $(SRCDIR)/heavy/*.c)\nOBJC=$(CFILES:%.c=%.o)\n",
     "CXXFILES=$(wildcard $(SRCDIR)/heavy/*.cpp)\nOBJCXX=$(CXXFILES:%.cpp=%.o)\n",
     compiled, "all: directories lib\n\ndirectories: $(OUTDIR)\n",
     "$(OUTDIR):\n\t$(MKDIR) $(OUTDIR)\n\nlib: $(OBJC) $(OBJCXX)",
     "\t$(CXX) -o $(OUTDIR)/lib`patch_name`.so $^ -shared\n\n.PHONY: clean\n\nclean:",
     "\trm -f $(SRCDIR)/**/*.o $(OUTDIR)/*.so\n"]]

def unityMakefile : Template :=
  [.text ["CC=clang\nCXX=clang++\nMKDIR=mkdir -p\nSRCDIR=../source",
     "OUTDIR=../build/linux/x64/release",
     "BASEFLAGS=-I$(SRCDIR) -DNDEBUG -msse4.1 -O3 " ++ optimised,
     "CFLAGS=$(BASEFLAGS) -std=c11",
     "CXXFLAGS=$(BASEFLAGS) -std=c++11 -Wno-writable-strings -fno-exceptions -fno-rtti\n",
     "# AudioLib\nHEADERS_LIB=$(wildcard $(SRCDIR)/heavy/*.h)",
     "HEADERS_LIB+=$(wildcard $(SRCDIR)/heavy/*.hpp)\n\nCFILES_LIB=$(wildcard $(SRCDIR)/heavy/*.c)",
     "OBJC_LIB=$(CFILES_LIB:%.c=%.o)\n\nCXXFILES_LIB=$(wildcard $(SRCDIR)/heavy/*.cpp)",
     "OBJCXX_LIB=$(CXXFILES_LIB:%.cpp=%.o)\n\n# AudioPlugin\nHEADERS_PLUG=$(HEADERS_LIB)",
     "HEADERS_PLUG+=$(wildcard $(SRCDIR)/unity/*.hpp)\n\nCFILES_PLUG=$(CFILES_LIB)",
     "CFILES_PLUG+=$(wildcard $(SRCDIR)/unity/*.c)\nOBJC_PLUG=$(CFILES_PLUG:%.c=%.o)\n",
     "CXXFILES_PLUG=$(CXXFILES_LIB)\nCXXFILES_PLUG+=$(wildcard $(SRCDIR)/unity/*.cpp)",
     "OBJCXX_PLUG=$(CXXFILES_PLUG:%.cpp=%.o)\n", compiled,
     "all: directories audiolib audioplugin\n\ndirectories: $(OUTDIR)\n\n$(OUTDIR):",
     "\t$(MKDIR) $(OUTDIR)\n\naudiolib: $(OBJC_LIB) $(OBJCXX_LIB)",
     "\t$(CXX) -o $(OUTDIR)/Hv_`patch_name`_AudioLib.so $^ -shared",
     "\tcp $(SRCDIR)/unity/Hv_`patch_name`_AudioLib.cs $(OUTDIR)\n",
     "audioplugin: $(OBJC_PLUG) $(OBJCXX_PLUG)",
     "\t$(CXX) -o $(OUTDIR)/AudioPlugin_Hv_`patch_name`.so $^ -shared\n\n.PHONY: clean\n\nclean:",
     "\trm -f $(SRCDIR)/**/*.o $(OUTDIR)/*.so $(OUTDIR)/Hv_`patch_name`_AudioLib.cs\n"]]

def wwiseMakefile : Template :=
  [.text ["CC = clang\nCXX = clang++\nMKDIR = mkdir -p\nSRC_DIR = ../source",
     "WWISE_SDK_DIR = ../sdks/wwise_`wwise_version`/SDK/include/\nPATCH_NAME = `name`",
     "OUT_DIR = ../build/linux/x64/release",
     "BASEFLAGS = -I$(WWISE_SDK_DIR) -I$(SRC_DIR) -I$(SRC_DIR)/include -I$(SRC_DIR)/heavy -DNDEBUG -msse4.1 -O3 " ++ optimised,
     "CFLAGS = $(BASEFLAGS) -std=c11\nCXXFLAGS = $(BASEFLAGS) -std=c++11 -fno-exceptions -fno-rtti",
     "\nHEADERS = $(wildcard $(SRC_DIR)/include/*.h)\nHEADERS += $(wildcard $(SRC_DIR)/heavy/*.h)",
     "HEADERS += $(wildcard $(SRC_DIR)/engine/*.h)\n\nCFILES = $(wildcard $(SRC_DIR)/heavy/*.c)",
     "OBJC = $(CFILES:%.c=%.o)\n\nCXXFILES = $(wildcard $(SRC_DIR)/engine/*.cpp)",
     "CXXFILES += $(wildcard $(SRC_DIR)/heavy/*.cpp)\nOBJCXX = $(CXXFILES:%.cpp=%.o)\n",
     "RUNTIME_CXXFILES = $(CXXFILES)\nRUNTIME_CXXFILES += $(wildcard $(SRC_DIR)/runtime/*.cpp)",
     "RUNTIME_OBJCXX = $(RUNTIME_CXXFILES:%.cpp=%.o)\n", compiled,
     "all: directories engine runtime\n\ndirectories: $(OUT_DIR)\n\n$(OUT_DIR):",
     "\t$(MKDIR) $(OUT_DIR)\n\nengine: $(OBJC) $(OBJCXX)",
     "\tar -cvq $(OUT_DIR)/libHv_$(PATCH_NAME)_Wwise`plugin_type`Engine.a $^",
     "\tcp $(SRC_DIR)/include/Hv_$(PATCH_NAME)_Wwise`plugin_type`PluginFactory.h $(OUT_DIR)",
     "\tcp ../resources/Hv_$(PATCH_NAME)_Wwise`plugin_type`AuthPlugin.xml $(OUT_DIR)\n",
     "runtime: $(OBJC) $(RUNTIME_OBJCXX)",
     "\t$(CXX) -o $(OUT_DIR)/Hv_$(PATCH_NAME)_Wwise`plugin_type`Plugin.so $^ $(CXXFLAGS) -shared\n",
     ".PHONY: clean\n\nclean:\n\trm -rf $(SRC_DIR)/**/*.o $(OUT_DIR)/*.*\n"]]

end PatchCompiler.Sheet
